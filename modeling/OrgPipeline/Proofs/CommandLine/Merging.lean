import Mathlib.Data.List.Forall2
import OrgPipeline.Proofs.CommandLine.Inputs
import OrgPipeline.Proofs.Json.Grammar
import OrgPipeline.Proofs.Text.Split
import OrgPipeline.Proofs.World.Operations

/-!
# An object of inputs and the pairs that override it

What the object is made of, what every pair stands for, and what becomes of them
together. Each of the three either is there or fails with one error, and nothing is said
of how it is found. The object comes first, then the pairs, and the first one of these
that is at fault decides the error.
-/

set_option autoImplicit false

namespace OrgPipeline.Inputs

section
variable (env : Environment) (w : World)

inductive Fetched : String → Except Error String → Prop
  | inline {spec : String} (dash : Text.trim spec ≠ "-") (sign : ∀ path, spec ≠ "@" ++ path) :
    Fetched spec (.ok spec)
  | file {path text : String} {content : Octets} (named : Text.blank path = false)
    (found : w.files.find? w.here (PathTemplate.expand env path) = some (.file content))
    (decoded : Octets.text? content = some text) : Fetched ("@" ++ path) (.ok text)
  | nameless {path : String} (blank : Text.blank path = true) :
    Fetched ("@" ++ path)
      (.error (invalid "inputs" "Invalid JSON spec '@' (missing file path)"))
  | unreadable {path : String} {problem : OsProblem} (named : Text.blank path = false)
    (h : (Files.read w.here (PathTemplate.expand env path) w.files).1 = .error problem) :
    Fetched ("@" ++ path) (.error (Cause.io problem.text
      (some ("read inputs file: " ++ PathTemplate.expand env path))))
  | terminal {spec : String} (dash : Text.trim spec = "-") (h : w.terminal = true) :
    Fetched spec (.error (invalid "inputs" "Cannot read JSON from stdin when stdin is a TTY"))
  | stdin {spec text : String} (dash : Text.trim spec = "-") (piped : w.terminal = false)
    (decoded : Octets.text? w.stdin = some text) : Fetched spec (.ok text)
  | garbled {spec : String} (dash : Text.trim spec = "-") (piped : w.terminal = false)
    (h : Octets.text? w.stdin = none) :
    Fetched spec (.error (Cause.io OsProblem.notText.text (some "read stdin")))

/-- The members of the object that is given, or why there is none. Without an argument
there is an object without members. -/
inductive Given : Option String → Except Error Json.Members → Prop
  | absent : Given none (.ok [])
  | object {spec text : String} {members : Json.Members} (fetched : Fetched env w spec (.ok text))
    (h : Json.IsObject Json.depthLimit text members) : Given (some spec) (.ok members)
  | unread {spec : String} {e : Error} (fetched : Fetched env w spec (.error e)) :
    Given (some spec) (.error e)
  | notObject {spec text : String} (fetched : Fetched env w spec (.ok text))
    (h : ∀ members, ¬ Json.IsObject Json.depthLimit text members) :
    Given (some spec) (.error (invalid "inputs" (notAnObject ++ notWellFormed)))

end

section
variable {env : Environment} {w : World}

theorem trim_ne_dash {s : String} {c : Char} {cs : List Char} (hs : s.toList = c :: cs)
    (hblank : Text.isBlank c = false) (hc : c ≠ '-') : Text.trim s ≠ "-" := by
  intro h
  have hlist : Text.dropEndWhile Text.isBlank (c :: cs) = ['-'] := by
    have htrim := congrArg String.toList h
    rw [Text.trim, String.toList_ofList, hs, Text.trimList,
      List.dropWhile_cons_of_neg (by simp [hblank])] at htrim
    exact htrim
  have hprefix : Text.dropEndWhile Text.isBlank (c :: cs) <+: c :: cs := by
    rw [← List.reverse_suffix, Text.dropEndWhile, List.reverse_reverse]
    exact List.dropWhile_suffix _
  rw [hlist, List.cons_prefix_cons] at hprefix
  exact hc hprefix.1.symm

theorem trim_at_ne (path : String) : Text.trim ("@" ++ path) ≠ "-" :=
  @trim_ne_dash ("@" ++ path) '@' path.toList (by simp) (by decide) (by decide)

theorem specText_file (path : String) :
    specText env ("@" ++ path) =
      if Text.blank path then throw (invalid "inputs" "Invalid JSON spec '@' (missing file path)")
      else Action.readText (PathTemplate.expand env path) "read inputs file" := by
  have hafter : Text.after "@" ("@" ++ path) = some path := Text.after_eq_some_iff.2 rfl
  rw [specText, if_neg (trim_at_ne path), hafter]

theorem specText_of_fetched {spec : String} {r : Except Error String}
    (h : Fetched env w spec r) : ∃ w', specText env spec w = (r, w') := by
  cases h with
  | inline dash sign =>
    have hafter : Text.after "@" spec = none := by
      rw [Option.eq_none_iff_forall_not_mem]
      intro path hpath
      exact sign path (Text.after_eq_some_iff.1 hpath)
    rw [specText, if_neg dash, hafter]
    exact ⟨w, rfl⟩
  | @file path text content named found decoded =>
    have hread : Files.read w.here (PathTemplate.expand env path) w.files =
        (.ok text, w.files) := by
      unfold Files.find? at found
      split at found
      · next place hplace => exact Files.read_of_file hplace found decoded
      · cases found
    rw [specText_file, if_neg (by simp [named]), Action.readText, Action.ofFiles_of_ok hread]
    exact ⟨_, rfl⟩
  | nameless blank =>
    rw [specText_file, if_pos blank]
    exact ⟨w, rfl⟩
  | @unreadable path problem named h =>
    rw [specText_file, if_neg (by simp [named]), Action.readText, Action.ofFiles]
    split
    · next hread =>
      rw [hread] at h
      cases h
    · next hread =>
      rw [hread] at h
      cases h
      exact ⟨_, rfl⟩
  | terminal dash h =>
    rw [specText, if_pos dash, readStdin, if_pos h]
    exact ⟨w, rfl⟩
  | stdin dash piped decoded =>
    rw [specText, if_pos dash, readStdin, if_neg (by simp [piped]), decoded]
    exact ⟨_, rfl⟩
  | garbled dash piped h =>
    rw [specText, if_pos dash, readStdin, if_neg (by simp [piped]), h]
    exact ⟨_, rfl⟩

theorem exists_fetched (env : Environment) (w : World) (spec : String) :
    ∃ r, Fetched env w spec r := by
  by_cases dash : Text.trim spec = "-"
  · cases piped : w.terminal with
    | true => exact ⟨_, .terminal dash piped⟩
    | false =>
      cases htext : Octets.text? w.stdin with
      | some text => exact ⟨_, .stdin dash piped htext⟩
      | none => exact ⟨_, .garbled dash piped htext⟩
  · by_cases sign : ∃ path, spec = "@" ++ path
    · obtain ⟨path, rfl⟩ := sign
      cases named : Text.blank path with
      | true => exact ⟨_, .nameless named⟩
      | false =>
        rcases hread : Files.read w.here (PathTemplate.expand env path) w.files with ⟨r, g⟩
        cases r with
        | error problem => exact ⟨_, .unreadable named (congrArg Prod.fst hread)⟩
        | ok text =>
          obtain ⟨-, place, content, hplace, hfile, htext⟩ := Files.read_ok hread
          have found : w.files.find? w.here (PathTemplate.expand env path) =
              some (.file content) := by
            rw [Files.find?, hplace]
            exact hfile
          exact ⟨_, .file named found htext⟩
    · exact ⟨_, .inline dash (not_exists.1 sign)⟩

theorem fetched_brace {spec : String} {cs : List Char} (h : spec.toList = '\x7b' :: cs) :
    Fetched env w spec (.ok spec) := by
  apply Fetched.inline
  · exact trim_ne_dash h (by decide) (by decide)
  · rintro path rfl
    simp at h

theorem ofSpec_of_given {spec : Option String} {r : Except Error Json.Members}
    (h : Given env w spec r) : ∃ w', ofSpec env spec w = (r.map Table.ofList, w') := by
  cases h with
  | absent => exact ⟨w, rfl⟩
  | object fetched h =>
    obtain ⟨w', htext⟩ := specText_of_fetched fetched
    rw [ofSpec, Sequence.bind_of_ok htext, Action.ofExcept, ofObject,
      Json.readMembers_eq_some_iff.2 h]
    exact ⟨w', rfl⟩
  | unread fetched =>
    obtain ⟨w', htext⟩ := specText_of_fetched fetched
    rw [ofSpec, Sequence.bind_of_error htext]
    exact ⟨w', rfl⟩
  | @notObject spec text fetched h =>
    obtain ⟨w', htext⟩ := specText_of_fetched fetched
    have hnone : Json.readMembers (fun _ => true) text.toList = none := by
      rw [Option.eq_none_iff_forall_not_mem]
      intro members hmembers
      exact h members (Json.readMembers_eq_some_iff.1 hmembers)
    rw [ofSpec, Sequence.bind_of_ok htext, Action.ofExcept, ofObject, hnone]
    exact ⟨w', rfl⟩

theorem exists_given (env : Environment) (w : World) (spec : Option String) :
    ∃ r, Given env w spec r := by
  cases spec with
  | none => exact ⟨_, .absent⟩
  | some spec =>
    obtain ⟨q, hq⟩ := exists_fetched env w spec
    cases q with
    | error e => exact ⟨_, .unread hq⟩
    | ok text =>
      by_cases h : ∃ members, Json.IsObject Json.depthLimit text members
      · obtain ⟨members, hmembers⟩ := h
        exact ⟨_, .object hq hmembers⟩
      · exact ⟨_, .notObject hq (not_exists.1 h)⟩

end

/-- What the text of a pair means: a null, a boolean, a number or a string that it spells,
and otherwise the text itself. -/
inductive Meant : String → Json → Prop
  | literal {text : String} {v : Json} (h : Json.IsValue 0 text v) : Meant text v
  | verbatim {text : String} (h : ∀ v, ¬ Json.IsValue 0 text v) : Meant text (.str text)

/-- An identifier with its value, or why a pair gives none. The identifier ends at the
first equals sign. -/
inductive PairRead : String → Except Error (String × Json) → Prop
  | named {id text : String} {v : Json} (undivided : '=' ∉ id.toList)
    (nonblank : Text.blank id = false) (value : Meant text v) :
    PairRead (id ++ "=" ++ text) (.ok (Text.trim id, v))
  | nameless {id text : String} (undivided : '=' ∉ id.toList) (blank : Text.blank id = true) :
    PairRead (id ++ "=" ++ text)
      (.error (invalid "input" ("Missing input id in '" ++ (id ++ "=" ++ text) ++ "'")))
  | unseparated {pair : String} (h : '=' ∉ pair.toList) :
    PairRead pair (.error (invalid "input" ("Expected id=value, got '" ++ pair ++ "'")))

theorem Meant.unique {text : String} {u v : Json} (hu : Meant text u) (hv : Meant text v) :
    u = v := by
  cases hu with
  | literal hu =>
    cases hv with
    | literal hv =>
      have hread := (Json.isValue_zero_iff.1 hu).1
      rw [(Json.isValue_zero_iff.1 hv).1] at hread
      exact (Option.some.inj hread).symm
    | verbatim hnone => exact absurd hu (hnone u)
  | verbatim hnone =>
    cases hv with
    | literal hv => exact absurd hv (hnone v)
    | verbatim => rfl

theorem meant_of_unread {text : String} (h : Json.read text = none) : Meant text (.str text) := by
  apply Meant.verbatim
  intro v hv
  rw [(Json.isValue_zero_iff.1 hv).1] at h
  cases h

theorem meant_valueOf (text : String) : Meant text (valueOf text) := by
  have hverbatim (h : ∀ v, Json.read text = some v → ¬ Json.IsScalar v) :
      Meant text (.str text) := by
    apply Meant.verbatim
    intro v hv
    obtain ⟨hread, hscalar⟩ := Json.isValue_zero_iff.1 hv
    exact h v hread hscalar
  unfold valueOf
  cases hread : Json.read text with
  | none => exact meant_of_unread hread
  | some v =>
    cases v with
    | arr items => exact hverbatim (by simp [hread, Json.IsScalar])
    | obj members => exact hverbatim (by simp [hread, Json.IsScalar])
    | null => exact .literal (Json.isValue_zero_iff.2 ⟨hread, trivial⟩)
    | bool b => exact .literal (Json.isValue_zero_iff.2 ⟨hread, trivial⟩)
    | num n => exact .literal (Json.isValue_zero_iff.2 ⟨hread, trivial⟩)
    | str s => exact .literal (Json.isValue_zero_iff.2 ⟨hread, trivial⟩)

theorem ofPair_of_pairRead {pair : String} {r : Except Error (String × Json)}
    (h : PairRead pair r) : ofPair pair = r := by
  have hdivided {id text : String} (undivided : '=' ∉ id.toList) :
      Text.splitOnce '=' (id ++ "=" ++ text) = some (id, text) :=
    Text.splitOnce_eq_some_iff.2 ⟨rfl, undivided⟩
  cases h with
  | @named id text v undivided nonblank value =>
    rw [ofPair, hdivided undivided]
    simp [nonblank, (meant_valueOf text).unique value]
  | nameless undivided blank =>
    rw [ofPair, hdivided undivided]
    simp [blank]
  | unseparated h => rw [ofPair, Text.splitOnce_eq_none_iff.2 h]

theorem exists_pairRead (pair : String) : ∃ r, PairRead pair r := by
  cases hsplit : Text.splitOnce '=' pair with
  | none => exact ⟨_, .unseparated (Text.splitOnce_eq_none_iff.1 hsplit)⟩
  | some parts =>
    obtain ⟨id, text⟩ := parts
    obtain ⟨rfl, undivided⟩ := Text.splitOnce_eq_some_iff.1 hsplit
    cases hblank : Text.blank id with
    | true => exact ⟨_, .nameless undivided hblank⟩
    | false => exact ⟨_, .named undivided hblank (meant_valueOf text)⟩

abbrev AllRead : List String → List (String × Json) → Prop :=
  List.Forall₂ fun pair p => PairRead pair (.ok p)

theorem mapM_of_allRead {pairs : List String} {read : List (String × Json)}
    (h : AllRead pairs read) : pairs.mapM ofPair = .ok read := by
  induction h with
  | nil => rfl
  | cons hp _ ih =>
    rw [List.mapM_cons, ofPair_of_pairRead hp, ih]
    rfl

theorem exists_of_allRead {pairs : List String} {read : List (String × Json)}
    (h : AllRead pairs read) {pair : String} (hmem : pair ∈ pairs) :
    ∃ p, PairRead pair (.ok p) := by
  induction h with
  | nil => cases hmem
  | cons hp _ ih =>
    rcases List.mem_cons.1 hmem with rfl | hmem
    · exact ⟨_, hp⟩
    · exact ih hmem

theorem mapM_of_bad {before after : List String} {bad : String} {read : List (String × Json)}
    {e : Error} (h : AllRead before read) (hbad : PairRead bad (.error e)) :
    (before ++ bad :: after).mapM ofPair = .error e := by
  rw [List.mapM_append, mapM_of_allRead h, List.mapM_cons, ofPair_of_pairRead hbad]
  rfl

theorem allRead_or_bad (pairs : List String) :
    (∃ read, AllRead pairs read) ∨ ∃ before bad after read e, pairs = before ++ bad :: after ∧
      AllRead before read ∧ PairRead bad (.error e) := by
  induction pairs with
  | nil => exact Or.inl ⟨[], .nil⟩
  | cons pair pairs ih =>
    obtain ⟨r, hr⟩ := exists_pairRead pair
    cases r with
    | error e => exact Or.inr ⟨[], pair, pairs, [], e, rfl, .nil, hr⟩
    | ok p =>
      rcases ih with ⟨read, hread⟩ | ⟨before, bad, after, read, e, rfl, hbefore, hbad⟩
      · exact Or.inl ⟨p :: read, .cons hr hread⟩
      · exact Or.inr ⟨pair :: before, bad, after, p :: read, e, rfl, .cons hr hbefore, hbad⟩

theorem pairRead_error_iff {pair : String} :
    (∃ e, PairRead pair (.error e)) ↔ '=' ∉ pair.toList ∨
      ∃ id text, pair = id ++ "=" ++ text ∧ '=' ∉ id.toList ∧ Text.blank id = true := by
  constructor
  · rintro ⟨e, h⟩
    cases h with
    | nameless undivided blank => exact Or.inr ⟨_, _, rfl, undivided, blank⟩
    | unseparated h => exact Or.inl h
  · rintro (h | ⟨id, text, rfl, undivided, blank⟩)
    · exact ⟨_, .unseparated h⟩
    · exact ⟨_, .nameless undivided blank⟩

def LastOf (entries : List (String × Json)) (id : String) (v : Json) : Prop :=
  ∃ before after, entries = before ++ (id, v) :: after ∧ id ∉ after.map Prod.fst

theorem lookup_reverse_eq_some_iff {entries : List (String × Json)} {id : String} {v : Json} :
    Table.lookup id entries.reverse = some v ↔ LastOf entries id v := by
  constructor
  · intro h
    induction entries using List.reverseRecOn with
    | nil => cases h
    | append_singleton entries entry ih =>
      obtain ⟨other, u⟩ := entry
      rw [List.reverse_append, List.reverse_singleton, List.singleton_append, Table.lookup] at h
      by_cases hid : other = id
      · rw [if_pos hid] at h
        cases h
        exact ⟨entries, [], by rw [hid], List.not_mem_nil⟩
      · rw [if_neg hid] at h
        obtain ⟨before, after, rfl, hafter⟩ := ih h
        refine ⟨before, after ++ [(other, u)], by simp, ?_⟩
        simp [hafter, Ne.symm hid]
  · rintro ⟨before, after, rfl, hafter⟩
    exact lookup_last before hafter

/-- Inputs made of the members of an object and of what the pairs give. The last pair of an
identifier counts, and where there is none the last member. What the pairs add stands
behind what the object has. -/
structure Merged (members : Json.Members) (read : List (String × Json)) (data : Data) : Prop where
  keys : data.keys = (members.map Prod.fst).eraseDups ++
    ((read.map Prod.fst).filter fun id => id ∉ members.map Prod.fst).eraseDups
  values : ∀ id v, data.get? id = some v ↔
    LastOf read id v ∨ id ∉ read.map Prod.fst ∧ LastOf members id v

theorem merged_overriddenBy (members : Json.Members) (read : List (String × Json)) :
    Merged members read (overriddenBy (Table.ofList members) (Table.ofList read)) where
  keys := by
    have hkeys : (overriddenBy (Table.ofList members) (Table.ofList read)).keys =
        (members.map Prod.fst ++ (Table.ofList read).keys).eraseDups :=
      Table.keys_foldl_insert (Table.ofList read).toList (Table.keys_ofList members)
    rw [hkeys, Table.keys_ofList, Table.eraseDups_append_eraseDups, List.eraseDups_append]
    congr 2
    simp [List.removeAll]
  values id v := by
    rw [get?_overriddenBy, Option.or_eq_some_iff, Table.get?_ofList, lookup_reverse_eq_some_iff,
      lookup_reverse_eq_some_iff, Table.lookup_eq_none_iff, List.map_reverse, List.mem_reverse]

theorem Merged.eq_overriddenBy {members : Json.Members} {read : List (String × Json)} {data : Data}
    (h : Merged members read data) :
    overriddenBy (Table.ofList members) (Table.ofList read) = data := by
  have hmerged := merged_overriddenBy members read
  apply Table.eq_of_keys (hmerged.keys.trans h.keys.symm)
  · exact Table.distinct_foldl_insert _ (Table.distinct_ofList members)
  · intro id
    apply Option.ext
    intro v
    rw [hmerged.values, h.values]

section
variable (env : Environment) (w : World)

/-- The error with which inputs are refused: that of the object, and if the object is
there, that of the first pair at fault. -/
inductive Refused : Option String → List String → Error → Prop
  | object {spec : Option String} {e : Error} (h : Given env w spec (.error e))
    (pairs : List String) : Refused spec pairs e
  | pair {spec : Option String} {members : Json.Members} {before : List String} {bad : String}
    {read : List (String × Json)} {e : Error} (h : Given env w spec (.ok members))
    (hbefore : AllRead before read) (hbad : PairRead bad (.error e)) (after : List String) :
    Refused spec (before ++ bad :: after) e

end

section
variable {env : Environment} {w : World} {spec : Option String} {pairs : List String}

theorem merge_of_read {members : Json.Members} {read : List (String × Json)}
    (h : Given env w spec (.ok members)) (hread : AllRead pairs read) :
    (merge env spec pairs w).1 =
      .ok (overriddenBy (Table.ofList members) (Table.ofList read)) := by
  obtain ⟨w', hspec⟩ := ofSpec_of_given h
  rw [merge_ok hspec (mapM_of_allRead hread)]

theorem merge_of_refused {e : Error} (h : Refused env w spec pairs e) :
    (merge env spec pairs w).1 = .error e := by
  cases h with
  | object h =>
    obtain ⟨w', hspec⟩ := ofSpec_of_given h
    rw [merge, Sequence.bind_of_error hspec]
  | pair h hbefore hbad after =>
    obtain ⟨w', hspec⟩ := ofSpec_of_given h
    rw [merge, Sequence.bind_of_ok hspec, ofPairs, mapM_of_bad hbefore hbad]
    rfl

theorem read_or_refused (env : Environment) (w : World) (spec : Option String)
    (pairs : List String) :
    (∃ members read, Given env w spec (.ok members) ∧ AllRead pairs read) ∨
      ∃ e, Refused env w spec pairs e := by
  obtain ⟨r, hr⟩ := exists_given env w spec
  cases r with
  | error e => exact Or.inr ⟨e, .object hr pairs⟩
  | ok members =>
    rcases allRead_or_bad pairs with ⟨read, hread⟩ |
      ⟨before, bad, after, read, e, rfl, hbefore, hbad⟩
    · exact Or.inl ⟨members, read, hr, hread⟩
    · exact Or.inr ⟨e, .pair hr hbefore hbad after⟩

end

/-- Inputs are refused exactly if the object is not there or a pair is at fault. Otherwise
they are merged. A null, a boolean, an integer of 64 bits and a string can be given in the
form in which they are printed. -/
theorem merge_outcome (env : Environment) (spec : Option String) (pairs : List String)
    (w : World) :
    ((∃ e, (merge env spec pairs w).1 = .error e) ↔
      (∃ e, Given env w spec (.error e)) ∨ ∃ pair ∈ pairs, '=' ∉ pair.toList ∨
        ∃ id text, pair = id ++ "=" ++ text ∧ '=' ∉ id.toList ∧ Text.blank id = true) ∧
    (∀ e, (merge env spec pairs w).1 = .error e ↔ Refused env w spec pairs e) ∧
    (∀ data, (merge env spec pairs w).1 = .ok data ↔
      ∃ members read, Given env w spec (.ok members) ∧ AllRead pairs read ∧
        Merged members read data) ∧
    ∀ v, Json.Literal v → Meant (Json.print v) v := by
  have hrefused (e : Error) :
      (merge env spec pairs w).1 = .error e ↔ Refused env w spec pairs e := by
    constructor
    · intro h
      rcases read_or_refused env w spec pairs with ⟨members, read, hgiven, hread⟩ | ⟨e', he'⟩
      · cases (merge_of_read hgiven hread).symm.trans h
      · cases (merge_of_refused he').symm.trans h
        exact he'
    · exact merge_of_refused
  refine ⟨?_, hrefused, ?_, ?_⟩
  · simp only [hrefused, ← pairRead_error_iff]
    constructor
    · rintro ⟨e, h⟩
      cases h with
      | object h => exact Or.inl ⟨e, h⟩
      | pair h hbefore hbad after =>
        exact Or.inr ⟨_, List.mem_append_right _ List.mem_cons_self, e, hbad⟩
    · rintro (⟨e, h⟩ | ⟨pair, hmem, e, hbad⟩)
      · exact ⟨e, .object h pairs⟩
      · rcases read_or_refused env w spec pairs with ⟨members, read, hgiven, hread⟩ | hrefused
        · obtain ⟨p, hp⟩ := exists_of_allRead hread hmem
          cases (ofPair_of_pairRead hp).symm.trans (ofPair_of_pairRead hbad)
        · exact hrefused
  · intro data
    constructor
    · intro h
      rcases read_or_refused env w spec pairs with ⟨members, read, hgiven, hread⟩ | ⟨e, he⟩
      · cases (merge_of_read hgiven hread).symm.trans h
        exact ⟨members, read, hgiven, hread, merged_overriddenBy members read⟩
      · cases (merge_of_refused he).symm.trans h
    · rintro ⟨members, read, hgiven, hread, hmerged⟩
      rw [merge_of_read hgiven hread, hmerged.eq_overriddenBy]
  · intro v h
    exact .literal (Json.isValue_print h)

namespace Release

def spec : String := "\x7b\"a\":true,\"b\":false,\"a\":null\x7d"

theorem isObject_spec :
    Json.IsObject Json.depthLimit spec [("a", .bool true), ("b", .bool false), ("a", .null)] := by
  have ha (rest : List Char) : Json.Quoted ('a' :: '"' :: rest) "a".toList rest :=
    .plain (by decide) (by decide) (by decide) (.close _)
  have hb (rest : List Char) : Json.Quoted ('b' :: '"' :: rest) "b".toList rest :=
    .plain (by decide) (by decide) (by decide) (.close _)
  refine ⟨[], .parts rfl ?_, rfl⟩
  exact .more (.mk rfl (ha _) rfl (Json.spells_scalar (.bool true rfl) _)) rfl
    (.more (.mk rfl (hb _) rfl (Json.spells_scalar (.bool false rfl) _)) rfl
      (.last (.mk rfl (ha _) rfl (Json.spells_scalar (.null rfl) _)) rfl))

theorem pairRead {pair id text key : String} {v : Json} (hpair : pair = id ++ "=" ++ text)
    (hid : '=' ∉ id.toList ∧ Text.blank id = false ∧ Text.trim id = key) (value : Meant text v) :
    PairRead pair (.ok (key, v)) := by
  obtain ⟨undivided, nonblank, rfl⟩ := hid
  subst hpair
  exact .named undivided nonblank value

end Release

/-- One pair overrides the object, another one an earlier pair. -/
theorem merge_outcome_release :
    Json.Literal (.int 1) ∧ Meant "1" (.int 1) ∧
      (merge Engine.Stopped.env (some Release.spec) [" n =1", "a=ci", "n=x=y"]
        Engine.Stopped.world).1 =
          .ok ⟨[("a", .str "ci"), ("b", .bool false), ("n", .str "x=y")]⟩ := by
  have hone : Json.Literal (.int 1) := .int ⟨by decide, by decide⟩
  have hci : Json.read "ci" = none := Option.isNone_iff_eq_none.1 (by decide +kernel)
  have hxy : Json.read "x=y" = none := Option.isNone_iff_eq_none.1 (by decide +kernel)
  obtain ⟨-, -, hmerged, hprinted⟩ := merge_outcome Engine.Stopped.env (some Release.spec)
    [" n =1", "a=ci", "n=x=y"] Engine.Stopped.world
  refine ⟨hone, hprinted _ hone, (hmerged _).2 ⟨_, [("n", .int 1), ("a", .str "ci"),
    ("n", .str "x=y")], .object (fetched_brace rfl) Release.isObject_spec, ?_,
    merged_overriddenBy _ _⟩⟩
  refine .cons ?_ (.cons ?_ (.cons ?_ .nil))
  · exact @Release.pairRead _ " n " "1" _ _ rfl (by decide) (hprinted _ hone)
  · exact @Release.pairRead _ "a" "ci" _ _ rfl (by decide) (meant_of_unread hci)
  · exact @Release.pairRead _ "n" "x=y" _ _ rfl (by decide) (meant_of_unread hxy)

namespace Nested

def arrays : Nat → Json
  | 0 => .arr []
  | n + 1 => .arr [arrays n]

def spec (n : Nat) : String :=
  String.ofList ('\x7b' :: '"' :: 'a' :: '"' :: ':' ::
    (List.replicate (n + 1) '[' ++ (List.replicate (n + 1) ']' ++ ['\x7d'])))

theorem spells_arrays (n : Nat) (rest : List Char) :
    Json.Spells (n + 1) (List.replicate (n + 1) '[' ++ (List.replicate (n + 1) ']' ++ rest))
      (arrays n) rest := by
  induction n generalizing rest with
  | zero => exact .arr (.empty rfl rfl)
  | succ n ih =>
    have hclosing : List.replicate (n + 2) ']' ++ rest =
        List.replicate (n + 1) ']' ++ ']' :: rest := by
      rw [List.replicate_succ', List.append_assoc, List.singleton_append]
    rw [hclosing]
    exact .arr (.parts rfl (.last (ih (']' :: rest)) rfl))

theorem isObject_spec (n : Nat) : Json.IsObject (n + 2) (spec n) [("a", arrays n)] := by
  refine ⟨[], ?_, rfl⟩
  rw [spec, String.toList_ofList]
  have hname (rest : List Char) : Json.Quoted ('a' :: '"' :: rest) "a".toList rest :=
    .plain (by decide) (by decide) (by decide) (.close _)
  exact .parts rfl (.last (.mk rfl (hname _) rfl (spells_arrays n _)) rfl)

/-- More brackets are open than the depth allows. -/
theorem not_spells_brackets (depth : Nat) (cs : List Char) (v : Json) (rest : List Char) :
    ¬ Json.Spells depth (List.replicate (depth + 1) '[' ++ cs) v rest := by
  have hscalar (cs : List Char) (v : Json) (rest : List Char) :
      ¬ Json.Scalar ('[' :: cs) v rest := by
    intro h
    cases h.value? 0 0
  induction depth generalizing v rest with
  | zero => exact hscalar _ v rest
  | succ depth ih =>
    intro h
    cases h with
    | scalar h => exact hscalar _ v rest h
    | arr h =>
      cases h with
      | empty hopen hclose =>
        cases hopen
        cases hclose
      | parts hopen h =>
        cases hopen
        obtain ⟨item, mid, hitem⟩ := h.head
        exact ih item mid hitem
    | obj h =>
      obtain ⟨inside, hopen⟩ := h.opened
      cases hopen

theorem not_isObject_spec {n : Nat} (h : Json.depthLimit ≤ n + 1) (members : Json.Members) :
    ¬ Json.IsObject Json.depthLimit (spec n) members := by
  obtain ⟨k, hk⟩ := Nat.exists_eq_add_of_le h
  rintro ⟨rest, hobject, -⟩
  rw [spec, String.toList_ofList, hk, List.replicate_add, List.append_assoc] at hobject
  cases hobject with
  | empty hopen hclose =>
    cases hopen
    cases hclose
  | parts hopen hmembers =>
    cases hopen
    obtain ⟨m, mid, hm⟩ := hmembers.head
    cases hm with
    | @mk inside mid after _ name v opening hname colon hv =>
      cases opening
      generalize name.toList = s at hname
      cases hname with
      | plain quote backslash control hname =>
        cases hname with
        | close rest =>
          cases colon
          exact not_spells_brackets _ _ _ _ hv
        | plain quote backslash control hname => exact quote rfl

end Nested

theorem refused_of_not_isObject {env : Environment} {w : World} {spec : String} {cs : List Char}
    (hspec : spec.toList = '\x7b' :: cs)
    (h : ∀ members, ¬ Json.IsObject Json.depthLimit spec members) :
    ∃ e, (merge env (some spec) [] w).1 = .error e :=
  ⟨_, merge_of_refused (.object (.notObject (fetched_brace hspec) h) [])⟩

theorem not_isObject_of_readMembers {spec : String}
    (h : Json.readMembers (fun _ => true) spec.toList = none) (members : Json.Members) :
    ¬ Json.IsObject Json.depthLimit spec members := by
  intro hobject
  rw [Json.readMembers_eq_some_iff.2 hobject] at h
  cases h

/-- Objects are refused that are nested too deep, that have a number beyond all floating
point numbers or that have half of a character, although they follow the grammar. A pair
with such a number keeps its text. -/
theorem merge_unheld :
    (∃ members, Json.IsObject 128 (Nested.spec 126) members) ∧
      (∃ e, (merge Engine.Stopped.env (some (Nested.spec 126)) [] Engine.Stopped.world).1 =
        .error e) ∧
    (∀ text ∈ ["\x7b\"a\":1e999\x7d", "\x7b\"a\":\"\\ud800\"\x7d"],
      (Json.readMembers (fun _ => false) text.toList).isSome = true ∧
        ∃ e, (merge Engine.Stopped.env (some text) [] Engine.Stopped.world).1 = .error e) ∧
    Json.Numeral "1e999".toList [] ∧ Meant "1e999" (.str "1e999") := by
  refine ⟨⟨_, Nested.isObject_spec 126⟩, ?_, ?_, ?_, ?_⟩
  · exact refused_of_not_isObject (String.toList_ofList.trans rfl)
      (Nested.not_isObject_spec (by decide))
  · intro text htext
    have hreads : (Json.readMembers (fun _ => true) text.toList).isNone = true ∧
        (Json.readMembers (fun _ => false) text.toList).isSome = true := by
      revert text
      decide +kernel
    have hnone := not_isObject_of_readMembers (Option.isNone_iff_eq_none.1 hreads.1)
    refine ⟨hreads.2, ?_⟩
    rw [List.mem_pair] at htext
    rcases htext with rfl | rfl
    · exact refused_of_not_isObject rfl hnone
    · exact refused_of_not_isObject rfl hnone
  · have hwhole : Json.Digits ['1', 'e', '9', '9', '9'] ['e', '9', '9', '9'] :=
      Json.digits_dropWhile (by decide)
    have hexponent : Json.Digits ['9', '9', '9'] [] := Json.digits_dropWhile (by decide)
    exact .unsigned (.mk (.digits hwhole (by decide)) (.absent _) (.present (Or.inl rfl) hexponent))
  · exact meant_of_unread (Option.isNone_iff_eq_none.1 (by decide +kernel))

end OrgPipeline.Inputs
