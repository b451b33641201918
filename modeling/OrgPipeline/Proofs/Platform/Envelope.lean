import Mathlib.Data.List.DropRight
import OrgPipeline.Platform.Envelope
import OrgPipeline.Proofs.Json.Literal
import OrgPipeline.Proofs.Schema

/-!
# What counts as an answer

A text is an envelope if it is one object, in which the members that an envelope
knows come once each and have values that fit, or one array with an item for each of
them. An answer is a success exactly if the program succeeded and the first of its
two outputs that is an envelope has status zero.
-/

set_option autoImplicit false

namespace OrgPipeline.Platform.Envelope

/-- The members of an envelope that a text consists of. Of an object they are those
that an envelope knows, in an array each has its place. -/
inductive Members (text : String) : Json.Members → Prop
  | object {members : Json.Members}
      (read : Json.readMembers schema.names.contains text.toList = some members)
      (once : (members.map Prod.fst).Nodup) : Members text members
  | array {items : List Json} (read : Json.read text = some (.arr items))
      (full : items.length = schema.names.length) : Members text (schema.names.zip items)

/-- What the members say, and what holds of those that are missing. Other texts than
these may be null, which is as good as missing; the status and the warnings may not. -/
structure Fits (members : Json.Members) (e : Envelope) : Prop where
  status : Json.lookup "status" members = some (.int e.status) ∧ e.status ≤ Json.maxSigned ∨
    Json.lookup "status" members = none ∧ e.status = 0
  result : e.result = (Json.lookup "result" members).getD .null
  name : PlatformFailure.nonNull (Json.lookup "name" members) = e.name.map .str
  message : PlatformFailure.nonNull (Json.lookup "message" members) = e.message.map .str
  stack : PlatformFailure.nonNull (Json.lookup "stack" members) = e.stack.map .str
  warnings : Json.lookup "warnings" members = some (.strings e.warnings) ∨
    Json.lookup "warnings" members = none ∧ e.warnings = []
  data : PlatformFailure.nonNull (Json.lookup "data" members) = e.data

def Denotes (text : String) (e : Envelope) : Prop :=
  ∃ members, Members text members ∧ Fits members e

theorem statusCode_ok {v : Json} {n : Int} :
    statusCode v = .ok n ↔ v = .int n ∧ n ≤ Json.maxSigned := by
  unfold statusCode
  split
  · next m =>
    split
    · next h =>
      simp only [Except.ok.injEq, Json.int, Json.num.injEq, Number.int.injEq]
      constructor
      · rintro rfl
        exact ⟨rfl, h⟩
      · exact fun hm => hm.1
    · next h =>
      simp only [reduceCtorEq, Json.int, Json.num.injEq, Number.int.injEq, false_iff]
      rintro ⟨rfl, hm⟩
      exact h hm
  · next hv =>
    simp only [reduceCtorEq, false_iff]
    rintro ⟨rfl, -⟩
    exact hv n rfl

theorem optionalText_ok {found : Option Json} {o : Option String} :
    ((∃ v, found = some v ∧ Fit.option Fit.text v = .ok o) ∨
        found = none ∧ (.ok none : Fit (Option String)) = .ok o) ↔
      PlatformFailure.nonNull found = o.map .str := by
  cases found with
  | none => cases o <;> simp [PlatformFailure.nonNull]
  | some v =>
    simp only [Option.some.injEq, exists_eq_left', Fit.option_ok, Fit.text_ok, reduceCtorEq,
      false_and, or_false]
    cases v <;> cases o <;> simp [PlatformFailure.nonNull, eq_comm]

theorem optionalData_ok {found o : Option Json} :
    ((∃ v, found = some v ∧ Fit.option Fit.anything v = .ok o) ∨
        found = none ∧ (.ok none : Fit (Option Json)) = .ok o) ↔
      PlatformFailure.nonNull found = o := by
  cases found with
  | none => cases o <;> simp [PlatformFailure.nonNull]
  | some v =>
    simp only [Option.some.injEq, exists_eq_left', Fit.option_ok, Fit.anything, reduceCtorEq,
      false_and, or_false]
    cases v <;> cases o <;> simp [PlatformFailure.nonNull, eq_comm]

theorem status_ok {found : Option Json} {n : Int} :
    ((∃ v, found = some v ∧ statusCode v = .ok n) ∨ found = none ∧ (.ok 0 : Fit Int) = .ok n) ↔
      found = some (.int n) ∧ n ≤ Json.maxSigned ∨ found = none ∧ n = 0 := by
  cases found with
  | none => simp [eq_comm]
  | some v => simp [statusCode_ok]

theorem result_ok {found : Option Json} {v : Json} :
    ((∃ u, found = some u ∧ Fit.anything u = .ok v) ∨
        found = none ∧ (.ok .null : Fit Json) = .ok v) ↔
      v = found.getD .null := by
  cases found with
  | none => simp [eq_comm]
  | some u => simp [Fit.anything, eq_comm]

theorem warnings_ok {found : Option Json} {ss : List String} :
    ((∃ v, found = some v ∧ Fit.list Fit.text v = .ok ss) ∨
        found = none ∧ (.ok [] : Fit (List String)) = .ok ss) ↔
      found = some (.strings ss) ∨ found = none ∧ ss = [] := by
  cases found with
  | none => simp [eq_comm]
  | some v => simp [Fit.texts_ok]

theorem ofMembers_ok {members : Json.Members} {e : Envelope} :
    schema.ofMembers members = .ok e ↔ Fits members e := by
  unfold schema Schema.withDefault Schema.optional
  simp only [Schema.ofMembers_seq_ok, Schema.ofMembers_map_ok, Schema.ofMembers_field_ok,
    status_ok, result_ok, optionalText_ok, warnings_ok, optionalData_ok]
  constructor
  · rintro ⟨_, ⟨_, ⟨_, ⟨_, ⟨_, ⟨_, ⟨status, hstatus, rfl⟩, result, hresult, rfl⟩, name, hname, rfl⟩,
      message, hmessage, rfl⟩, stack, hstack, rfl⟩, warnings, hwarnings, rfl⟩, data, hdata, rfl⟩
    exact ⟨hstatus, hresult, hname, hmessage, hstack, hwarnings, hdata⟩
  · intro h
    exact ⟨_, ⟨_, ⟨_, ⟨_, ⟨_, ⟨_, ⟨_, h.status, rfl⟩, _, h.result, rfl⟩, _, h.name, rfl⟩,
      _, h.message, rfl⟩, _, h.stack, rfl⟩, _, h.warnings, rfl⟩, _, h.data, rfl⟩

theorem checks_schema : schema.Checks :=
  ((((((((Schema.checks_field _ _ _ _).map _).seq (Schema.checks_field _ _ _ _)).seq
    (Schema.checks_field _ _ _ _)).seq (Schema.checks_field _ _ _ _)).seq
    (Schema.checks_field _ _ _ _)).seq (Schema.checks_field _ _ _ _)).seq
    (Schema.checks_field _ _ _ _))

theorem ofMembers?_eq_some {members : Json.Members} {e : Envelope} :
    ofMembers? members = some e ↔ (members.map Prod.fst).Nodup ∧ Fits members e := by
  unfold ofMembers?
  split
  · next hnodup =>
    rw [Fit.toOption_eq_some, Schema.readMembers_ok_iff checks_schema hnodup, ofMembers_ok]
    exact (and_iff_right hnodup).symm
  · next hnodup => simp [hnodup]

theorem of_found {P : Json → Prop} {Q : Prop} {found : Option Json} {v : Json}
    (h : (∃ u, found = some u ∧ P u) ∨ found = none ∧ Q) (hv : found = some v) : P v := by
  subst hv
  rcases h with ⟨u, ⟨⟩, hu⟩ | ⟨⟨⟩, -⟩
  exact hu

/-- An array has an item for every field: those that may be missing come ahead of
one that may not. -/
theorem ofItems_ok {expected : String} {items : List Json} {e : Envelope} :
    schema.ofItems expected 0 items = .ok (e, []) ↔
      ∃ status result name message stack warnings data,
        items = [status, result, name, message, stack, warnings, data] ∧
          Fits (schema.names.zip items) e := by
  have hnames : schema.names =
    ["status", "result", "name", "message", "stack", "warnings", "data"] := rfl
  rw [hnames]
  unfold schema Schema.withDefault Schema.optional
  simp only [Schema.ofItems_seq_ok, Schema.ofItems_map_ok, Schema.ofItems_field_ok]
  constructor
  · rintro ⟨_, _, ⟨_, _, ⟨_, _, ⟨_, _, ⟨_, _, ⟨_, _, ⟨_, hstatus, rfl⟩, _, hresult, rfl⟩,
      _, hname, rfl⟩, _, hmessage, rfl⟩, _, hstack, rfl⟩, _, hwarnings, rfl⟩, _, hdata, rfl⟩
    -- Each field leaves what the next one takes, so the last one is read first.
    obtain ⟨data, rfl, hdata⟩ | ⟨-, -, ⟨⟩, -⟩ := hdata
    obtain ⟨warnings, rfl, hwarnings⟩ | ⟨-, ⟨⟩, -⟩ := hwarnings
    obtain ⟨stack, rfl, hstack⟩ | ⟨-, ⟨⟩, -⟩ := hstack
    obtain ⟨message, rfl, hmessage⟩ | ⟨-, ⟨⟩, -⟩ := hmessage
    obtain ⟨name, rfl, hname⟩ | ⟨-, ⟨⟩, -⟩ := hname
    obtain ⟨result, rfl, hresult⟩ | ⟨-, ⟨⟩, -⟩ := hresult
    obtain ⟨status, rfl, hstatus⟩ | ⟨-, ⟨⟩, -⟩ := hstatus
    exact ⟨status, result, name, message, stack, warnings, data, rfl,
      status_ok.1 (.inl ⟨status, rfl, hstatus⟩), result_ok.1 (.inl ⟨result, rfl, hresult⟩),
      optionalText_ok.1 (.inl ⟨name, rfl, hname⟩),
      optionalText_ok.1 (.inl ⟨message, rfl, hmessage⟩),
      optionalText_ok.1 (.inl ⟨stack, rfl, hstack⟩),
      warnings_ok.1 (.inl ⟨warnings, rfl, hwarnings⟩),
      optionalData_ok.1 (.inl ⟨data, rfl, hdata⟩)⟩
  · rintro ⟨status, result, name, message, stack, warnings, data, rfl, h⟩
    have hstatus := of_found (status_ok.2 h.status) rfl
    have hresult := of_found (result_ok.2 h.result) rfl
    have hname := of_found (optionalText_ok.2 h.name) rfl
    have hmessage := of_found (optionalText_ok.2 h.message) rfl
    have hstack := of_found (optionalText_ok.2 h.stack) rfl
    have hwarnings := of_found (warnings_ok.2 h.warnings) rfl
    have hdata := of_found (optionalData_ok.2 h.data) rfl
    exact ⟨_, _, ⟨_, _, ⟨_, _, ⟨_, _, ⟨_, _, ⟨_, _, ⟨_, .inl ⟨_, rfl, hstatus⟩, rfl⟩,
      _, .inl ⟨_, rfl, hresult⟩, rfl⟩, _, .inl ⟨_, rfl, hname⟩, rfl⟩,
      _, .inl ⟨_, rfl, hmessage⟩, rfl⟩, _, .inl ⟨_, rfl, hstack⟩, rfl⟩,
      _, .inl ⟨_, rfl, hwarnings⟩, rfl⟩, _, .inl ⟨_, rfl, hdata⟩, rfl⟩

theorem read_array_ok {items : List Json} {e : Envelope} :
    schema.read false "Envelope" (.arr items) = .ok e ↔
      items.length = schema.names.length ∧ Fits (schema.names.zip items) e := by
  rw [Schema.read_array_ok, ofItems_ok]
  constructor
  · rintro ⟨_, _, _, _, _, _, _, rfl, hfits⟩
    exact ⟨rfl, hfits⟩
  · rintro ⟨hlength, hfits⟩
    match items, hlength, hfits with
    | [status, result, name, message, stack, warnings, data], _, hfits =>
      exact ⟨status, result, name, message, stack, warnings, data, rfl, hfits⟩

theorem value?_opening {fuel depth : Nat} {cs rest : List Char} {v : Json}
    (h : Json.value? fuel depth cs = some (v, rest)) :
    (∃ items, v = .arr items) ↔ ∃ inside, Json.skipSpace cs = '[' :: inside := by
  cases fuel with
  | zero => cases h
  | succ fuel =>
    unfold Json.value? at h
    split at h
    · cases h
    · next hcs =>
      obtain ⟨_, _, hpair⟩ := Option.map_eq_some_iff.1 h
      cases hpair
      simp [hcs]
    · next hcs =>
      rw [hcs]
      refine iff_of_true ?_ ⟨_, rfl⟩
      split at h
      · cases h
      · split at h
        · cases h
          exact ⟨_, rfl⟩
        · obtain ⟨_, _, hpair⟩ := Option.map_eq_some_iff.1 h
          cases hpair
          exact ⟨_, rfl⟩
    · next hcs =>
      rw [hcs]
      refine iff_of_false ?_ (by simp)
      rintro ⟨items, rfl⟩
      split at h
      · cases h
      · split at h
        · cases h
        · obtain ⟨_, _, hpair⟩ := Option.map_eq_some_iff.1 h
          cases hpair
    · next hcs =>
      obtain ⟨_, rfl⟩ := Json.literal?_eq h
      simp [hcs]
    · next hcs =>
      obtain ⟨_, rfl⟩ := Json.literal?_eq h
      simp [hcs]
    · next hcs =>
      obtain ⟨_, rfl⟩ := Json.literal?_eq h
      simp [hcs]
    · next harray _ _ _ _ =>
      obtain ⟨_, _, hpair⟩ := Option.map_eq_some_iff.1 h
      cases hpair
      refine iff_of_false (by simp) ?_
      rintro ⟨inside, hcs⟩
      exact harray _ hcs

theorem read_opening {text : String} {v : Json} (h : Json.read text = some v) :
    (∃ items, v = .arr items) ↔ ∃ inside, Json.skipSpace text.toList = '[' :: inside := by
  unfold Json.read Json.readList at h
  obtain ⟨⟨u, rest⟩, hvalue, hend⟩ := Option.bind_eq_some_iff.1 h
  dsimp only at hend
  split at hend
  · cases hend
    exact value?_opening hvalue
  · cases hend

theorem readMembers_skipSpace (asked : String → Bool) (cs : List Char) :
    Json.readMembers asked (Json.skipSpace cs) = Json.readMembers asked cs := by
  have hskip : Json.skipSpace (Json.skipSpace cs) = Json.skipSpace cs :=
    List.dropWhile_idempotent Json.isSpace cs
  unfold Json.readMembers
  rw [hskip]

theorem readMembers_of_bracket {asked : String → Bool} {cs inside : List Char}
    (h : Json.skipSpace cs = '[' :: inside) : Json.readMembers asked cs = none := by
  unfold Json.readMembers
  rw [h]
  rfl

/-- The first character tells an array from an object. -/
theorem read_eq_some_iff {text : String} {e : Envelope} : read text = some e ↔ Denotes text e := by
  unfold read
  split
  · next inside hbracket =>
    rw [Option.bind_eq_some_iff]
    constructor
    · rintro ⟨v, hv, hread⟩
      obtain ⟨items, rfl⟩ := (read_opening hv).2 ⟨inside, hbracket⟩
      obtain ⟨hfull, hfits⟩ := read_array_ok.1 (Fit.toOption_eq_some.1 hread)
      exact ⟨_, .array hv hfull, hfits⟩
    · rintro ⟨members, hmembers, hfits⟩
      cases hmembers with
      | object read once =>
        rw [readMembers_of_bracket hbracket] at read
        cases read
      | array read full =>
        exact ⟨_, read, Fit.toOption_eq_some.2 (read_array_ok.2 ⟨full, hfits⟩)⟩
  · next hnot =>
    rw [readMembers_skipSpace, Option.bind_eq_some_iff]
    constructor
    · rintro ⟨members, hread, hmembers⟩
      obtain ⟨hnodup, hfits⟩ := ofMembers?_eq_some.1 hmembers
      exact ⟨members, .object hread hnodup, hfits⟩
    · rintro ⟨members, hmembers, hfits⟩
      cases hmembers with
      | object read once => exact ⟨members, read, ofMembers?_eq_some.2 ⟨once, hfits⟩⟩
      | array read full =>
        obtain ⟨inside, hbracket⟩ := (read_opening read).1 ⟨_, rfl⟩
        exact absurd hbracket (hnot inside)

theorem read_eq_none_iff {text : String} : read text = none ↔ ∀ e, ¬ Denotes text e := by
  rw [Option.eq_none_iff_forall_ne_some]
  simp only [ne_eq, read_eq_some_iff]

/-- The envelope of an output is on standard output or, if what is there is none, on
standard error. -/
def First (o : ProgramOutput) (e : Envelope) : Prop :=
  Denotes (Text.trim o.stdout) e ∨
    (∀ other, ¬ Denotes (Text.trim o.stdout) other) ∧ Denotes (Text.trim o.stderr) e

def NoneIn (o : ProgramOutput) : Prop :=
  (∀ e, ¬ Denotes (Text.trim o.stdout) e) ∧ ∀ e, ¬ Denotes (Text.trim o.stderr) e

theorem ofOutput?_eq_some {o : ProgramOutput} {e : Envelope} :
    ofOutput? o = some e ↔ First o e := by
  unfold ofOutput? First
  cases hread : read (Text.trim o.stdout) with
  | some other =>
    dsimp only
    have hother := read_eq_some_iff.1 hread
    rw [← read_eq_some_iff, hread]
    refine (or_iff_left ?_).symm
    rintro ⟨hnone, -⟩
    exact hnone other hother
  | none =>
    dsimp only
    have hnone := read_eq_none_iff.1 hread
    rw [read_eq_some_iff, or_iff_right (hnone e), and_iff_right hnone]

theorem ofOutput?_eq_none {o : ProgramOutput} : ofOutput? o = none ↔ NoneIn o := by
  unfold ofOutput? NoneIn
  rw [← read_eq_none_iff, ← read_eq_none_iff]
  cases read (Text.trim o.stdout) with
  | some e => simp
  | none => simp

theorem first_unique {o : ProgramOutput} {e f : Envelope} (he : First o e) (hf : First o f) :
    e = f :=
  Option.some.inj ((ofOutput?_eq_some.2 he).symm.trans (ofOutput?_eq_some.2 hf))

theorem answer_of_first {o : ProgramOutput} {e : Envelope} (h : First o e) (subcommand : String) :
    answer subcommand o = if e.status = 0 ∧ o.success then .ok e.result
      else .error (failure subcommand o.exitCode e) := by
  unfold answer
  rw [ofOutput?_eq_some.2 h]

theorem answer_of_noneIn {o : ProgramOutput} (h : NoneIn o) (subcommand : String) :
    answer subcommand o = if o.success then
        .error (Cause.json notWellFormed (some ("parse " ++ subcommand ++ " output")))
      else .error (bareFailure "CommandFailed" subcommand o) := by
  unfold answer
  rw [ofOutput?_eq_none.2 h]

theorem first_or_noneIn (o : ProgramOutput) : (∃ e, First o e) ∨ NoneIn o := by
  cases hread : ofOutput? o with
  | some e => exact .inl ⟨e, ofOutput?_eq_some.1 hread⟩
  | none => exact .inr (ofOutput?_eq_none.1 hread)

theorem not_first {o : ProgramOutput} (h : NoneIn o) (e : Envelope) : ¬ First o e := by
  rintro (hout | ⟨-, herr⟩)
  · exact h.1 e hout
  · exact h.2 e herr

theorem answer_eq_ok {subcommand : String} {o : ProgramOutput} {v : Json} :
    answer subcommand o = .ok v ↔
      o.success = true ∧ ∃ e, First o e ∧ e.status = 0 ∧ e.result = v := by
  rcases first_or_noneIn o with ⟨e, he⟩ | hnone
  · rw [answer_of_first he]
    constructor
    · intro h
      split at h
      · next hgood =>
        cases h
        exact ⟨hgood.2, e, he, hgood.1, rfl⟩
      · cases h
    · rintro ⟨hsuccess, f, hf, hstatus, rfl⟩
      obtain rfl := first_unique he hf
      rw [if_pos ⟨hstatus, hsuccess⟩]
  · rw [answer_of_noneIn hnone]
    constructor
    · intro h
      split at h <;> cases h
    · rintro ⟨-, e, he, -⟩
      exact absurd he (not_first hnone e)

/-- A program that succeeds and answers with no envelope has an error of its own; every
other failure is the command's. -/
theorem code_of_answer {subcommand : String} {o : ProgramOutput} {error : Error}
    (h : answer subcommand o = .error error) :
    error.code = .internalJson ∧ o.success = true ∧ NoneIn o ∨
      error.code = .platformCommandFailed ∧ ¬ (o.success = true ∧ NoneIn o) := by
  rcases first_or_noneIn o with ⟨e, he⟩ | hnone
  · rw [answer_of_first he] at h
    split at h
    · cases h
    · cases h
      exact .inr ⟨rfl, fun hsilent => not_first hsilent.2 e he⟩
  · rw [answer_of_noneIn hnone] at h
    split at h
    · next hsuccess =>
      cases h
      exact .inl ⟨rfl, hsuccess, hnone⟩
    · next hsuccess =>
      cases h
      exact .inr ⟨rfl, fun hsilent => hsuccess hsilent.1⟩

theorem answer_with_stderr {o : ProgramOutput} {e : Envelope}
    (h : Denotes (Text.trim o.stdout) e) (subcommand stderr : String) :
    answer subcommand { o with stderr } = answer subcommand o := by
  have hstated : First o e := .inl h
  have hother : First { o with stderr } e := .inl h
  rw [answer_of_first hstated, answer_of_first hother]

/-- A command has the result of its envelope if it succeeded and says so; if it
succeeded and says nothing that can be understood, that is an error of its own, and
every other failure is the command's. What stands on standard error does not matter if
there is an envelope on standard output. -/
theorem answer_decided (subcommand : String) (o : ProgramOutput) :
    (∀ v, answer subcommand o = .ok v ↔
        o.success = true ∧ ∃ e, First o e ∧ e.status = 0 ∧ e.result = v) ∧
      (∀ error, answer subcommand o = .error error →
        error.code = .internalJson ∧ o.success = true ∧ NoneIn o ∨
          error.code = .platformCommandFailed ∧ ¬ (o.success = true ∧ NoneIn o)) ∧
      (∀ e f, First o e → First o f → e = f) ∧
      ∀ e, Denotes (Text.trim o.stdout) e → ∀ stderr,
        answer subcommand { o with stderr } = answer subcommand o :=
  ⟨fun _ => answer_eq_ok, fun _ => code_of_answer, fun _ _ => first_unique,
    fun _ h => answer_with_stderr h subcommand⟩

end OrgPipeline.Platform.Envelope
