import OrgPipeline.Transfer.Basic
import OrgPipeline.Proofs.Platform.Sfdx
import OrgPipeline.Proofs.World.Operations

/-!
# The course of a transfer

A transfer queries the source org once, and only if its rows were written does it
ask the target org, once, to take them up. Each column of the file is asked for
under the name of a field in the source org and handed over under the name of the
same field in the target org, and the rows come through as they were printed.
-/

set_option autoImplicit false

namespace OrgPipeline.Transfer
open Platform Sequence

theorem digit_of_mem_toDigits {n : Nat} {c : Char} (h : c ∈ Nat.toDigits 16 n) :
    ∃ d < 16, c = d.digitChar := by
  induction n using Nat.strongRecOn with
  | ind n ih =>
    rw [Nat.toDigits_eq_if (by decide)] at h
    split at h
    · next hlt => exact ⟨n, hlt, List.mem_singleton.1 h⟩
    · next hge =>
      rcases List.mem_append.1 h with h | h
      · exact ih (n / 16) (by omega) h
      · exact ⟨n % 16, Nat.mod_lt _ (by decide), List.mem_singleton.1 h⟩

/-- The name of the file is a plain one, whatever the number in it. -/
theorem isName_fileName (n : Nat) : IsName (fileName n) := by
  have hdigits : ∀ d < 16, d.digitChar ≠ '/' ∧ d.digitChar ≠ '\x00' := by decide
  have hhex : ∀ c ∈ (hexName n).toList, c ≠ '/' ∧ c ≠ '\x00' := by
    intro c hc
    rw [hexName, String.toList_ofList, List.mem_append] at hc
    rcases hc with hc | hc
    · rw [(List.mem_replicate.1 hc).2]
      decide
    · obtain ⟨d, hd, rfl⟩ := digit_of_mem_toDigits hc
      exact hdigits d hd
  have hlist : (fileName n).toList = "tmp_data_".toList ++ (hexName n).toList ++ ".csv".toList := by
    simp [fileName]
  have hfree (c : Char) (hfirst : c ∉ "tmp_data_".toList) (hlast : c ∉ ".csv".toList)
      (hmid : ∀ d ∈ (hexName n).toList, d ≠ c) : c ∉ (fileName n).toList := by
    rw [hlist, List.mem_append, List.mem_append, not_or, not_or]
    exact ⟨⟨hfirst, fun h => hmid c h rfl⟩, hlast⟩
  have hhead {s : String} (hs : s.toList.head? ≠ some 't') : fileName n ≠ s := by
    rintro rfl
    rw [hlist] at hs
    exact hs rfl
  exact ⟨hhead (by decide), hhead (by decide), hhead (by decide),
    hfree '/' (by decide) (by decide) fun d hd => (hhex d hd).1,
    hfree '\x00' (by decide) (by decide) fun d hd => (hhex d hd).2⟩

def queryCommand (t : Transfer) (file : String) : Command :=
  .queryCsv t.sourceOrg file t.query (some t.header)

def upsertCommand (t : Transfer) (file : String) : Command :=
  .bulkUpsert t.targetOrg file t.externalId (t.object.name .target)

def settled (t : Transfer) (answer : Except Error Json) : Except Error Json :=
  answer.bind fun result => (Bulk.check "upsert" result t.allowance).map fun _ => result

theorem settled_ok_iff (t : Transfer) (answer : Except Error Json) (value : Json) :
    t.settled answer = .ok value ↔
      answer = .ok value ∧ Bulk.check "upsert" value t.allowance = .ok () := by
  unfold settled
  cases answer with
  | error e => simp [Except.bind]
  | ok result =>
    cases hcheck : Bulk.check "upsert" result t.allowance with
    | error e =>
      simp only [Except.bind, hcheck, Except.map, Except.ok.injEq, reduceCtorEq, false_iff, not_and]
      rintro rfl
      simp [hcheck]
    | ok u =>
      simp only [Except.bind, hcheck, Except.map, Except.ok.injEq]
      constructor
      · rintro rfl
        exact ⟨rfl, hcheck⟩
      · rintro ⟨rfl, -⟩
        rfl

section
variable {platform : Command → Action Json} {t : Transfer} {file : String} {w u v : World}

theorem copy_of_error {e : Error} (h : platform (t.queryCommand file) w = (.error e, u)) :
    t.copy platform file w = (.error e, u) := bind_of_error h _

theorem copy_of_ok {value : Json} {answer : Except Error Json}
    (hquery : platform (t.queryCommand file) w = (.ok value, u))
    (hupsert : platform (t.upsertCommand file) u = (answer, v)) :
    t.copy platform file w = (t.settled answer, v) := by
  unfold copy
  refine (bind_of_ok hquery _).trans ?_
  cases answer with
  | error e => exact bind_of_error hupsert _
  | ok result =>
    refine (bind_of_ok hupsert _).trans ?_
    cases hcheck : Bulk.check "upsert" result t.allowance with
    | error e =>
      have hsettled : t.settled (.ok result) = .error e := by
        simp [settled, Except.bind, Except.map, hcheck]
      rw [hsettled]
      exact bind_of_error (a := Action.ofExcept (.error e)) rfl _
    | ok _ =>
      have hsettled : t.settled (.ok result) = .ok result := by
        simp [settled, Except.bind, Except.map, hcheck]
      rw [hsettled]
      exact bind_of_ok (a := Action.ofExcept (.ok _)) rfl _

end

def sourceName : TransferItem → String
  | .same name => name
  | .mapped source _ => source

def targetName : TransferItem → String
  | .same name => name
  | .mapped _ target => target

theorem name_source (item : TransferItem) : item.name .source = sourceName item := by
  cases item <;> rfl

theorem name_target (item : TransferItem) : item.name .target = targetName item := by
  cases item <;> rfl

def queryLaunch (tool : Sfdx) (t : Transfer) : Launch :=
  ⟨tool.directory, tool.bin,
    ["force:data:soql:query", "--targetusername", t.sourceOrg, "--query",
      "SELECT " ++ ",".intercalate (t.fields.map sourceName) ++ " FROM " ++
        sourceName t.object ++ " " ++ t.filter,
      "--resultformat", "csv"], none⟩

def upsertLaunch (tool : Sfdx) (t : Transfer) (file : String) : Launch :=
  ⟨tool.directory, tool.bin,
    ["force:data:bulk:upsert", "--targetusername", t.targetOrg, "--csvfile", file, "--externalid",
      t.externalId, "--sobjecttype", targetName t.object, "--wait", "60", "--json"], none⟩

theorem queryLaunch_eq (tool : Sfdx) (t : Transfer) (file : String) :
    tool.queryLaunch (t.queryCommand file) = queryLaunch tool t := by
  have hnames : TransferItem.names .source t.fields = t.fields.map sourceName :=
    List.map_congr_left fun f _ => name_source f
  unfold queryLaunch
  rw [← hnames, ← name_source]
  rfl

theorem upsertLaunch_eq (tool : Sfdx) (t : Transfer) (file : String) :
    tool.launch (t.upsertCommand file) = upsertLaunch tool t file := by
  unfold upsertLaunch
  rw [← name_target]
  rfl

theorem upsert_world {tool : Sfdx} {t : Transfer} {file : String} {answer : Except Error Json}
    {u v : World} (h : tool.perform (t.upsertCommand file) u = (answer, v)) :
    v = ((upsertLaunch tool t file).run u).2 := by
  have hworld : (tool.perform (t.upsertCommand file) u).2 =
      ((tool.launch (t.upsertCommand file)).run u).2 :=
    tool.runEnveloped_world (t.upsertCommand file) u
  rwa [h, upsertLaunch_eq] at hworld

def afterLine (s : String) : String := String.ofList ((s.toList.dropWhile (· ≠ '\n')).drop 1)

/-- The names of the same fields in the target org, in the same order, and then the
rows as the query printed them. -/
def received (t : Transfer) (reply : Reply) : String :=
  ",".intercalate (t.fields.map targetName) ++ "\n" ++ afterLine reply.stdout.lossy

theorem splitOnceList_eq (sep : Char) (cs : List Char) :
    (Text.splitOnceList sep cs = none ∧ (cs.dropWhile (· ≠ sep)).drop 1 = []) ∨
      ∃ a, Text.splitOnceList sep cs = some (a, (cs.dropWhile (· ≠ sep)).drop 1) := by
  induction cs with
  | nil => exact Or.inl ⟨rfl, rfl⟩
  | cons c cs ih =>
    rw [Text.splitOnceList]
    by_cases hc : c = sep
    · right
      exact ⟨[], by simp [hc]⟩
    · rw [if_neg hc, List.dropWhile_cons_of_pos (by simpa using hc)]
      rcases ih with ⟨hnone, hdrop⟩ | ⟨a, ha⟩
      · exact Or.inl ⟨by rw [hnone]; rfl, hdrop⟩
      · exact Or.inr ⟨c :: a, by rw [ha]; rfl⟩

theorem header_eq (t : Transfer) : t.header = ",".intercalate (t.fields.map targetName) := by
  have hnames : TransferItem.names .target t.fields = t.fields.map targetName :=
    List.map_congr_left fun f _ => name_target f
  rw [header, hnames]
  rfl

theorem rows_eq_received (t : Transfer) (reply : Reply) :
    Sfdx.rows (some t.header) reply.stdout.lossy = t.received reply := by
  unfold Sfdx.rows Sfdx.replaceHeader received afterLine Text.splitOnce
  rw [header_eq]
  rcases splitOnceList_eq '\n' reply.stdout.lossy.toList with ⟨h, hdrop⟩ | ⟨a, h⟩
  · rw [h, hdrop]
    simp only [Option.map_none, String.ofList_nil, String.append_empty]
  · rw [h]
    rfl

/-- The starts that a copy makes from a world: the query at most, or the query and the
upsert, which finds in its file what the query printed. -/
structure Started (tool : Sfdx) (t : Transfer) (file : String) (w : World) (new : List Start) :
    Prop where
  calls : new.map (fun s => (s.program, s.args)) <+:
    [(tool.bin, (queryLaunch tool t).args), (tool.bin, (upsertLaunch tool t file).args)]
  found : ∀ start ∈ new, start.args = (upsertLaunch tool t file).args →
    ∃ reply u, (queryLaunch tool t).run w = (.ok reply, u) ∧
      start.files.find? start.place file = some (.file (Octets.ofText (t.received reply)))

namespace Started

variable {tool : Sfdx} {t : Transfer} {file : String} {w : World} {start : Start}

theorem args_ne (tool : Sfdx) (t : Transfer) (file : String) :
    (queryLaunch tool t).args ≠ (upsertLaunch tool t file).args := by
  simp [queryLaunch, upsertLaunch]

theorem query (hprogram : start.program = tool.bin)
    (hargs : start.args = (queryLaunch tool t).args) :
    Started tool t file w [start] := by
  constructor
  · rw [List.map_singleton, hprogram, hargs]
    simp
  · intro s hs hupsert
    rw [List.mem_singleton.1 hs, hargs] at hupsert
    exact absurd hupsert (args_ne tool t file)

theorem upsert {second : Start} {reply : Reply} {u : World} (hprogram : start.program = tool.bin)
    (hargs : start.args = (queryLaunch tool t).args) (hprogram' : second.program = tool.bin)
    (hargs' : second.args = (upsertLaunch tool t file).args)
    (hquery : (queryLaunch tool t).run w = (.ok reply, u))
    (hfound : second.files.find? second.place file =
      some (.file (Octets.ofText (t.received reply)))) :
    Started tool t file w [start, second] := by
  constructor
  · simp [hprogram, hargs, hprogram', hargs']
  · intro s hs hupsert
    rw [List.mem_cons, List.mem_singleton] at hs
    rcases hs with rfl | rfl
    · rw [hargs] at hupsert
      exact absurd hupsert (args_ne tool t file)
    · exact ⟨reply, u, hquery, hfound⟩

end Started

/-- The copy as it goes from a world: the commands with their answers, the world
after them, and what the copy comes to. -/
inductive Course (tool : Sfdx) (t : Transfer) (file : String) (w : World) :
    List (Command × Except Error Json) → World → Except Error Json → Prop
  | unstarted {problem : StartProblem} (e : Error)
    (hquery : (queryLaunch tool t).run w = (.error problem, w)) :
    Course tool t file w [(t.queryCommand file, .error e)] w (.error e)
  | refused {reply : Reply} {u : World} (e : Error)
    (hquery : (queryLaunch tool t).run w = (.ok reply, u))
    (hending : reply.ending.isSuccess = false) :
    Course tool t file w [(t.queryCommand file, .error e)] u (.error e)
  | unwritten {reply : Reply} {u v : World} {e : Error}
    (hquery : (queryLaunch tool t).run w = (.ok reply, u))
    (hending : reply.ending.isSuccess = true)
    (hwrite : Action.writeText (Path.join tool.directory file) (t.received reply)
      "write SOQL query CSV" u = (.error e, v)) :
    Course tool t file w [(t.queryCommand file, .error e)] v (.error e)
  | upserted {reply : Reply} {u u' v : World} {answer : Except Error Json}
    (hquery : (queryLaunch tool t).run w = (.ok reply, u))
    (hending : reply.ending.isSuccess = true)
    (hwrite : Action.writeText (Path.join tool.directory file) (t.received reply)
      "write SOQL query CSV" u = (.ok (), u'))
    (hupsert : tool.perform (t.upsertCommand file) u' = (answer, v)) :
    Course tool t file w [(t.queryCommand file, .ok .null), (t.upsertCommand file, answer)] v
      (t.settled answer)

theorem copy_course (tool : Sfdx) (t : Transfer) (file : String) (w : World) :
    ∃ asked, Exchanges tool.perform asked w (t.copy tool.perform file w).2 ∧
      Course tool t file w asked (t.copy tool.perform file w).2
        (t.copy tool.perform file w).1 := by
  have hlaunch := queryLaunch_eq tool t file
  have failed {e : Error} {v : World}
      (h : tool.perform (t.queryCommand file) w = (.error e, v))
      (hcourse : Course tool t file w [(t.queryCommand file, .error e)] v (.error e)) :
      ∃ asked, Exchanges tool.perform asked w (t.copy tool.perform file w).2 ∧
        Course tool t file w asked (t.copy tool.perform file w).2
          (t.copy tool.perform file w).1 := by
    rw [copy_of_error h]
    exact ⟨[(t.queryCommand file, .error e)], ⟨v, h, rfl⟩, hcourse⟩
  rcases hquery : (queryLaunch tool t).run w with ⟨problem | reply, u⟩
  · obtain ⟨e, he⟩ := Sfdx.runQuery_of_error (hlaunch ▸ hquery) file (some t.header)
    cases Launch.run_of_error hquery
    exact failed he (.unstarted e hquery)
  · cases hending : reply.ending.isSuccess with
    | false =>
      obtain ⟨e, he⟩ := Sfdx.runQuery_of_failure (hlaunch ▸ hquery) hending file (some t.header)
      exact failed he (.refused e hquery hending)
    | true =>
      have hrows := Sfdx.runQuery_of_success (hlaunch ▸ hquery) hending file (some t.header)
      rw [rows_eq_received] at hrows
      rcases hwrite : Action.writeText (Path.join tool.directory file) (t.received reply)
        "write SOQL query CSV" u with ⟨e | _, u'⟩
      · exact failed (hrows.trans (bind_of_error hwrite _)) (.unwritten hquery hending hwrite)
      · have hnull : tool.perform (t.queryCommand file) w = (.ok .null, u') :=
          hrows.trans (bind_of_ok hwrite _)
        rcases hupsert : tool.perform (t.upsertCommand file) u' with ⟨answer, v⟩
        rw [copy_of_ok hnull hupsert]
        exact ⟨[(t.queryCommand file, .ok .null), (t.upsertCommand file, answer)],
          ⟨u', hnull, v, hupsert, rfl⟩, .upserted hquery hending hwrite hupsert⟩

namespace Course

variable {tool : Sfdx} {t : Transfer} {file : String} {w v : World}
  {asked : List (Command × Except Error Json)} {result : Except Error Json}

theorem commands (h : Course tool t file w asked v result) :
    asked.map Prod.fst = [t.queryCommand file] ∨
      asked.map Prod.fst = [t.queryCommand file, t.upsertCommand file] := by
  cases h with
  | unstarted e hquery => exact Or.inl rfl
  | refused e hquery hending => exact Or.inl rfl
  | unwritten hquery hending hwrite => exact Or.inl rfl
  | upserted hquery hending hwrite hupsert => exact Or.inr rfl

theorem ok_iff (h : Course tool t file w asked v result) (value : Json) :
    result = .ok value ↔ (t.upsertCommand file, .ok value) ∈ asked ∧
      Bulk.check "upsert" value t.allowance = .ok () := by
  cases h with
  | unstarted e hquery => simp
  | refused e hquery hending => simp
  | unwritten hquery hending hwrite => simp
  | @upserted _ _ _ _ answer hquery hending hwrite hupsert =>
    rw [t.settled_ok_iff]
    simp [queryCommand, upsertCommand, eq_comm]

theorem found_by_upsert {directory name content operation : String} (hn : IsName name)
    {u u' : World}
    (hwrite : Action.writeText (Path.join tool.directory (Path.join directory name)) content
      operation u = (.ok (), u')) {reply : Reply}
    (hrun : (upsertLaunch tool t (Path.join directory name)).run u' = (.ok reply, v)) :
    ∃ start : Start, start.program = tool.bin ∧
      start.args = (upsertLaunch tool t (Path.join directory name)).args ∧
      v.starts = u'.starts ++ [start] ∧
      start.files.find? start.place (Path.join directory name) =
        some (.file (Octets.ofText content)) := by
  obtain ⟨place, hplace, -, rfl⟩ := Launch.run_started hrun
  refine ⟨_, rfl, rfl, rfl, ?_⟩
  rw [Path.join_assoc hn] at hwrite
  have hfound := Action.find?_of_writeText hn hwrite
  have hjoin := Files.find?_join (Launch.place_ok hplace).1 (Path.join_ne_empty hn directory)
  rw [← Path.join_assoc hn] at hfound
  exact hjoin.symm.trans hfound

/-- The starts of a copy: the query, and after it the upsert, which finds the rows of the
query in its file. -/
theorem starts {directory name : String} (hn : IsName name)
    (h : Course tool t (Path.join directory name) w asked v result) :
    ∃ new, v.starts = w.starts ++ new ∧ Started tool t (Path.join directory name) w new := by
  have queried {reply : Reply} {u : World} (hquery : (queryLaunch tool t).run w = (.ok reply, u)) :
      ∃ start : Start, start.program = tool.bin ∧ start.args = (queryLaunch tool t).args ∧
        u.starts = w.starts ++ [start] := by
    obtain ⟨place, -, -, rfl⟩ := Launch.run_started hquery
    exact ⟨_, rfl, rfl, rfl⟩
  cases h with
  | unstarted e hquery => exact ⟨[], by simp, by simp, by simp⟩
  | refused e hquery hending =>
    obtain ⟨start, hprogram, hargs, hstarts⟩ := queried hquery
    exact ⟨[start], hstarts, .query hprogram hargs⟩
  | @unwritten reply u _ e hquery hending hwrite =>
    obtain ⟨start, hprogram, hargs, hstarts⟩ := queried hquery
    obtain ⟨files, rfl⟩ := Action.writeText_world hwrite
    exact ⟨[start], hstarts, .query hprogram hargs⟩
  | @upserted reply u u' _ answer hquery hending hwrite hupsert =>
    obtain ⟨start, hprogram, hargs, hstarts⟩ := queried hquery
    have hstarts' : u'.starts = w.starts ++ [start] := by
      obtain ⟨files, rfl⟩ := Action.writeText_world hwrite
      exact hstarts
    have hworld := upsert_world hupsert
    rcases hrun : (upsertLaunch tool t (Path.join directory name)).run u' with
      ⟨problem | answered, v'⟩
    · have hv : v = u' := by rw [hworld, hrun, Launch.run_of_error hrun]
      exact ⟨[start], by rw [hv, hstarts'], .query hprogram hargs⟩
    · obtain ⟨second, hprogram', hargs', hmore, hfound⟩ := found_by_upsert hn hwrite hrun
      have hv : v.starts = w.starts ++ [start, second] := by
        rw [hworld, hrun, hmore, hstarts', List.append_assoc]
        rfl
      exact ⟨[start, second], hv, .upsert hprogram hargs hprogram' hargs' hquery hfound⟩

end Course

def tempFile (directory : String) (w : World) : String := Path.join directory (fileName w.serial)

def begun (w : World) : World := { w with serial := w.serial + 1 }

inductive Undisturbed (tool : Sfdx) (directory : String) (w : World) : Prop
  /-- The file has its path from the root, and no program touches what is there. -/
  | untouched (habs : Path.isAbsolute directory = true)
    (hprograms : ∀ reply, w.Answers reply → ∀ start files,
      (reply.effect start files).find? w.here (tempFile directory w) =
        files.find? w.here (tempFile directory w)) :
    Undisturbed tool directory w
  /-- The name is new, and no program makes a directory of that name. -/
  | fresh (hnew : w.files.NoDirectory (fileName w.serial))
    (htool : fileName w.serial ∉ Text.split '/' tool.directory)
    (hdirectory : fileName w.serial ∉ Text.split '/' directory)
    (hprograms : ∀ reply, w.Answers reply → ∀ start files,
      Files.NoNewDirectory (fileName w.serial) files (reply.effect start files)) :
    Undisturbed tool directory w

section
variable {tool : Sfdx} {directory content operation : String} {w u u' : World}

theorem file_of_untouched (habs : Path.isAbsolute directory = true)
    (hprograms : ∀ reply, w.Answers reply → ∀ start files,
      (reply.effect start files).find? w.here (tempFile directory w) =
        files.find? w.here (tempFile directory w))
    (hwrite : Action.writeText (Path.join tool.directory (tempFile directory w)) content
      operation u = (.ok (), u'))
    (hhere : u'.here = w.here) (hlater : ∀ reply, u'.Answers reply → w.Answers reply) (l : Launch) :
    (l.run u').2.files.find? w.here (tempFile directory w) =
      some (.file (Octets.ofText content)) := by
  have hn := isName_fileName w.serial
  have hfile : Path.isAbsolute (tempFile directory w) = true := by
    rw [tempFile, Path.isAbsolute_join hn, habs]
  rw [tempFile, Path.join_assoc hn] at hwrite
  have hfound := Action.find?_of_writeText hn hwrite
  rw [← Path.join_assoc hn, ← tempFile, Path.join.eq_1, if_pos hfile, hhere] at hfound
  exact l.run_keeps (P := fun f => f.find? w.here (tempFile directory w) =
      some (.file (Octets.ofText content)))
    (fun later hl start f hf => (hprograms later (hlater later hl) start f).trans hf) hfound

/-- Where no program makes a directory of the name, neither does the writing of the
file. -/
theorem noDirectory_of_fresh (htool : fileName w.serial ∉ Text.split '/' tool.directory)
    (hdirectory : fileName w.serial ∉ Text.split '/' directory)
    (hprograms : ∀ reply, w.Answers reply → ∀ start files,
      Files.NoNewDirectory (fileName w.serial) files (reply.effect start files))
    (hwrite : Action.writeText (Path.join tool.directory (tempFile directory w)) content
      operation u = (.ok (), u'))
    (hlater : ∀ reply, u'.Answers reply → w.Answers reply)
    (hnew : u.files.NoDirectory (fileName w.serial)) (l : Launch) :
    (l.run u').2.files.NoDirectory (fileName w.serial) := by
  have hn := isName_fileName w.serial
  rw [tempFile, Path.join_assoc hn] at hwrite
  have hnames : fileName w.serial ∉ Text.split '/' (Path.join tool.directory directory) := by
    intro hmem
    rcases Path.mem_split_join hmem with h | h
    · exact htool h
    · exact hdirectory h
  have hmoves := Action.writeText_noNewDirectory hn hnames content operation u
  rw [hwrite] at hmoves
  exact l.run_keeps (P := Files.NoDirectory (fileName w.serial))
    (fun r hr start f hf => hf.mono (hprograms r (hlater r hr) start f)) (hnew.mono hmoves)

end

/-- After an upsert the file of an undisturbed transfer is no directory. -/
theorem Undisturbed.file {tool : Sfdx} {directory : String} {t : Transfer} {w v : World}
    {asked : List (Command × Except Error Json)} {answer result : Except Error Json}
    (h : Undisturbed tool directory w)
    (hcourse : Course tool t (tempFile directory w) (begun w) asked v result)
    (hupserted : (t.upsertCommand (tempFile directory w), answer) ∈ asked) :
    v.files.find? v.here (tempFile directory w) ≠ some .directory := by
  cases hcourse with
  | unstarted e hquery => simp [queryCommand, upsertCommand] at hupserted
  | refused e hquery hending => simp [queryCommand, upsertCommand] at hupserted
  | unwritten hquery hending hwrite => simp [queryCommand, upsertCommand] at hupserted
  | @upserted reply u u' _ answer hquery hending hwrite hupsert =>
    obtain ⟨hhere, hreplies⟩ := (queryLaunch tool t).run_world (begun w)
    rw [hquery] at hhere hreplies
    obtain ⟨files, hu'⟩ := Action.writeText_world hwrite
    have hlater : ∀ later, u'.Answers later → w.Answers later := by
      rw [hu']
      exact hreplies
    have hhere' : u'.here = w.here := by rw [hu', hhere, begun]
    rw [upsert_world hupsert, (Launch.run_world _ u').1, hhere']
    cases h with
    | untouched habs hprograms =>
      rw [file_of_untouched habs hprograms hwrite hhere' hlater]
      simp
    | fresh hnew htool hdirectory hprograms =>
      have hqueried := (queryLaunch tool t).run_keeps (w := begun w)
        (P := Files.NoDirectory (fileName w.serial))
        (fun r hr start f hf => hf.mono (hprograms r hr start f)) hnew
      rw [hquery] at hqueried
      intro hfind
      obtain ⟨place, -, hplace⟩ := Files.exists_of_find?_join (isName_fileName w.serial) hfind
      exact noDirectory_of_fresh htool hdirectory hprograms hwrite hlater hqueried _ place hplace

section
variable (platform : Command → Action Json) (directory : String) (t : Transfer) (w : World)

/-- A transfer is a copy, after which its file is removed whatever came of it. -/
theorem run_eq : t.run platform directory w =
    (Action.remove (tempFile directory w) "remove transfer data file" >>= fun _ =>
      Action.ofExcept (t.copy platform (tempFile directory w) (begun w)).1)
        (t.copy platform (tempFile directory w) (begun w)).2 := by
  have hfresh : Action.freshNumber w = (.ok w.serial, begun w) := rfl
  unfold run
  rw [bind_of_ok hfresh, bind_of_ok (Action.attempt_of_eq (a := t.copy _ _) rfl)]
  rfl

theorem run_world : (t.run platform directory w).2 =
    (Action.remove (tempFile directory w) "remove transfer data file"
      (t.copy platform (tempFile directory w) (begun w)).2).2 := by
  rw [run_eq]
  rcases hremove : Action.remove (tempFile directory w) "remove transfer data file"
    (t.copy platform (tempFile directory w) (begun w)).2 with ⟨e | _, v⟩
  · rw [bind_of_error hremove]
  · rw [bind_of_ok hremove]
    rfl

end

def logging (stdout : String) (code : Nat) : Reply :=
  ⟨.ofText stdout, .ofText "", .exit code,
    fun _ files => files.insert ["log"] (.file (.ofText stdout))⟩

def workplace (stdout : String) (code : Nat) : World where
  files := ⟨[(["work"], .directory)]⟩
  here := []
  programs := [("sfdx", logging "Name\nA\n" 0)]
  script := [none, some (logging stdout code)]
  starts := []
  stdin := .ofText ""
  serial := 7

def oneField : Transfer :=
  ⟨"source", "target", .same "Account", [.mapped "Name" "Title"], "", "Id", ⟨none, none⟩⟩

theorem workplace_answers {stdout : String} {code : Nat} {reply : Reply}
    (h : (workplace stdout code).Answers reply) : ∃ stdout code, reply = logging stdout code := by
  rcases h with h | ⟨program, h⟩
  · simp only [workplace, List.mem_cons, reduceCtorEq, Option.some.injEq, List.not_mem_nil,
      or_false, false_or] at h
    exact ⟨stdout, code, h⟩
  · simp only [workplace, List.mem_singleton, Prod.mk.injEq] at h
    exact ⟨_, _, h.2⟩

end OrgPipeline.Transfer
