import OrgPipeline.World.Basic
import OrgPipeline.Proofs.World.Path

/-!
# What operations do to the files

For each operation that succeeds: where its path led, what stands there
afterwards, and what stands everywhere else.
-/

set_option autoImplicit false

namespace OrgPipeline

namespace Files
open Sequence

theorem makeDirectory_grows (here : Place) (path : String) :
    Moves Grows (makeDirectory here path) := by
  intro f
  unfold makeDirectory
  rw [get_bind]
  cases f.directoryOf here path with
  | error e => exact grows_refl f
  | ok dir =>
    cases (splitLast path).2.1 with
    | none => exact grows_refl f
    | some name =>
      dsimp only
      cases isSpecial (some name) with
      | true => exact grows_refl f
      | false =>
        cases hp : f.get? (dir ++ [name]) with
        | some e => exact grows_refl f
        | none => exact grows_insert_directory f _ hp

/-- What making one directory keeps is kept by making it with those above it. -/
theorem makeDirectories_moves {R : Files → Files → Prop} (hrefl : ∀ f, R f f)
    (htrans : ∀ f g h, R f g → R g h → R f h) {P : String → Prop} {here : Place}
    (hmake : ∀ path, P path → Moves R (makeDirectory here path))
    (hparent : ∀ path parent, P path → Path.parent? path = some parent → P parent) (fuel : Nat)
    {path : String} (hpath : P path) : Moves R (makeDirectories here fuel path) := by
  induction fuel generalizing path with
  | zero => exact moves_pure hrefl ()
  | succ fuel ih =>
    have attempt (onMissing : FileAction Unit) (hm : Moves R onMissing) :
        Moves R (tryCatch (makeDirectory here path) fun e => do
          if e = .notFound then onMissing
          else if (← get).isDirectory here path then return ()
          else throw e) := by
      apply moves_tryCatch htrans (hmake path hpath)
      intro e
      split
      · exact hm
      · intro f
        rw [get_bind]
        split <;> exact hrefl f
    unfold makeDirectories
    split
    · exact moves_pure hrefl ()
    · apply attempt
      split
      · next parent habove =>
        have again := attempt (throw .notFound) (moves_throw hrefl _)
        apply moves_bind htrans (ih (hparent path parent hpath habove))
        intro _
        exact again
      · exact moves_pure hrefl ()

theorem makeDirectories_grows (here : Place) (fuel : Nat) (path : String) :
    Moves Grows (makeDirectories here fuel path) :=
  makeDirectories_moves (P := fun _ => True) grows_refl grows_trans
    (fun path _ => makeDirectory_grows here path) (fun _ _ _ _ => trivial) fuel trivial

theorem makeAll_grows (here : Place) (path : String) : Moves Grows (makeAll here path) :=
  makeDirectories_grows here _ path

/-- The names of a path are those before the last one, the last one, which is not empty,
and empty names. -/
theorem split_splitLast (path : String) :
    ∃ rest, Text.split '/' path = (splitLast path).1 ++ ((splitLast path).2.1.toList ++ rest) ∧
      (splitLast path).2.1.toList ++ rest ≠ [] ∧ (splitLast path).2.1 ≠ some "" := by
  let names := Text.split '/' path
  have hnames : names ≠ [] := fun h => Text.splitList_ne_nil '/' _ (List.map_eq_nil_iff.1 h)
  have hsplit : names =
      (names.reverse.dropWhile (· = "")).reverse ++ (names.reverse.takeWhile (· = "")).reverse := by
    rw [← List.reverse_append, List.takeWhile_append_dropWhile, List.reverse_reverse]
  have hlast := List.head?_dropWhile_not (fun n : String => decide (n = "")) names.reverse
  unfold splitLast
  cases hbare : names.reverse.dropWhile (· = "") with
  | nil =>
    exact ⟨names, by simp [names, hbare], by simpa [names, hbare] using hnames,
      by simp [names, hbare]⟩
  | cons name before =>
    rw [hbare] at hsplit hlast
    have hne : name ≠ "" := by simpa using hlast
    refine ⟨(names.reverse.takeWhile (· = "")).reverse, ?_, ?_, ?_⟩
    · simpa [names, hbare] using hsplit
    · simp [names, hbare]
    · simpa [names, hbare] using hne

/-- Only directories that the path names are made. -/
theorem makeDirectory_noNewDirectory {name path : String} (h : name ∉ Text.split '/' path)
    (here : Place) : Moves (NoNewDirectory name) (makeDirectory here path) := by
  intro f
  obtain ⟨rest, hsplit, -, -⟩ := split_splitLast path
  unfold makeDirectory
  rw [get_bind]
  cases f.directoryOf here path with
  | error e => exact noNewDirectory_refl name f
  | ok dir =>
    cases hlast : (splitLast path).2.1 with
    | none => exact noNewDirectory_refl name f
    | some last =>
      dsimp only
      cases isSpecial (some last) with
      | true => exact noNewDirectory_refl name f
      | false =>
        cases f.get? (dir ++ [last]) with
        | some e => exact noNewDirectory_refl name f
        | none =>
          intro place hplace
          change (f.insert (dir ++ [last]) .directory).get? (place ++ [name]) = _ at hplace
          have hne : place ++ [name] ≠ dir ++ [last] := by
            intro e
            obtain ⟨-, rfl⟩ := List.append_inj' e rfl |>.imp_right List.singleton_inj.1
            rw [hlast] at hsplit
            exact h (by rw [hsplit]; simp)
          rwa [get?_insert f _ _ _ (by simp), if_neg hne] at hplace

theorem makeAll_noNewDirectory {name path : String} (hne : name ≠ "")
    (h : name ∉ Text.split '/' path) (here : Place) :
    Moves (NoNewDirectory name) (makeAll here path) := by
  refine makeDirectories_moves (P := fun p => name ∉ Text.split '/' p) (noNewDirectory_refl name)
    (noNewDirectory_trans name) (fun p hp => makeDirectory_noNewDirectory hp here) ?_ _ h
  intro p parent hp hparent hmem
  rcases Path.mem_split_parent hparent hmem with e | hmem
  · exact hne e
  · exact hp (List.mem_filter.1 (List.dropLast_subset _ hmem)).1

theorem follow_directory {f : Files} {place q : Place} {names : List String} (hne : names ≠ [])
    (h : f.follow place names = .ok q) : f.get? place = some .directory := by
  obtain ⟨name, rest, rfl⟩ := List.exists_cons_of_ne_nil hne
  rw [follow] at h
  cases hp : f.get? place with
  | none => simp [hp] at h
  | some e =>
    cases e with
    | file content => simp [hp] at h
    | directory => rfl

/-- Where something is already, no directory is made. -/
theorem makeDirectory_present {f : Files} {here place : Place} {path : String}
    (h : f.resolve here path = .ok place) :
    makeDirectory here path f = (.error .present, f) := by
  obtain ⟨hnul, hne, hfollow⟩ := resolve_ok_iff.1 h
  obtain ⟨rest, hsplit, hrest, hlast⟩ := split_splitLast path
  rw [hsplit, follow_append] at hfollow
  cases hdir : f.follow (startOf here path) (splitLast path).1 with
  | error e =>
    rw [hdir] at hfollow
    cases hfollow
  | ok dir =>
    rw [hdir] at hfollow
    change f.follow dir _ = .ok place at hfollow
    have hdirectory := follow_directory hrest hfollow
    have hof : f.directoryOf here path = .ok dir := by
      simp [directoryOf, hnul, hne, hdir, hdirectory]
    unfold makeDirectory
    rw [get_bind, hof]
    dsimp only
    cases hname : (splitLast path).2.1 with
    | none => rfl
    | some name =>
      rw [hname] at hfollow hlast
      dsimp only
      by_cases hspecial : isSpecial (some name) = true
      · rw [if_pos hspecial]
        rfl
      · -- the path leads through the entry of that name
        have hentry : (f.get? (dir ++ [name])).isSome := by
          simp only [isSpecial, Bool.or_eq_true, decide_eq_true_eq, not_or] at hspecial
          have hempty : name ≠ "" := fun e => hlast (congrArg some e)
          rw [Option.toList_some, List.singleton_append, follow, hdirectory] at hfollow
          simp only [hempty, hspecial, or_self, if_false] at hfollow
          cases hg : f.get? (dir ++ [name]) with
          | none => simp [hg] at hfollow
          | some e => rfl
        obtain ⟨e, he⟩ := Option.isSome_iff_exists.1 hentry
        rw [if_neg hspecial, he]
        rfl

theorem makeAll_present {f : Files} {here place : Place} {path : String}
    (h : f.resolve here path = .ok place) (hplace : f.get? place = some .directory) :
    makeAll here path f = (.ok (), f) := by
  obtain ⟨-, hne, -⟩ := resolve_ok_iff.1 h
  have hdirectory : f.isDirectory here path = true := by
    simp [isDirectory, find?, h, hplace]
  unfold makeAll makeDirectories
  rw [if_neg hne]
  refine (tryCatch_of_error (makeDirectory_present h) _).trans ?_
  rw [if_neg (by simp), get_bind, if_pos hdirectory]
  rfl

theorem read_ok {here : Place} {path text : String} {f g : Files}
    (h : read here path f = (.ok text, g)) :
    g = f ∧ ∃ place content, f.resolve here path = .ok place ∧
      f.get? place = some (.file content) ∧ Octets.text? content = some text := by
  unfold read at h
  rw [get_bind] at h
  cases hr : f.resolve here path with
  | error e =>
    rw [hr] at h
    cases h
  | ok place =>
    rw [hr] at h
    dsimp only at h
    cases hg : f.get? place with
    | none =>
      rw [hg] at h
      cases h
    | some e =>
      rw [hg] at h
      cases e with
      | directory => cases h
      | file content =>
        dsimp only at h
        cases ht : Octets.text? content with
        | none =>
          rw [ht] at h
          cases h
        | some t =>
          rw [ht] at h
          cases h
          exact ⟨rfl, place, content, rfl, hg, ht⟩

theorem read_of_file {here place : Place} {path text : String} {content : Octets} {f : Files}
    (hplace : f.resolve here path = .ok place) (hfile : f.get? place = some (.file content))
    (htext : Octets.text? content = some text) : read here path f = (.ok text, f) := by
  unfold read
  rw [get_bind, hplace]
  dsimp only
  rw [hfile]
  dsimp only
  rw [htext]
  rfl

theorem read_keeps (here : Place) (path : String) : Moves Eq (read here path) := by
  intro f
  unfold read
  rw [get_bind]
  cases f.resolve here path with
  | error e => rfl
  | ok place =>
    dsimp only
    cases f.get? place with
    | none => rfl
    | some e =>
      cases e with
      | directory => rfl
      | file content =>
        dsimp only
        cases Octets.text? content with
        | none => rfl
        | some text => rfl

theorem write_noNewDirectory (name : String) (here : Place) (path : String) (content : Octets) :
    Moves (NoNewDirectory name) (write here path content) := by
  have hinsert (f : Files) (dir : Place) (last : String) :
      NoNewDirectory name f (f.insert (dir ++ [last]) (.file content)) := by
    intro place hplace
    rw [get?_insert f _ _ _ (by simp)] at hplace
    split at hplace
    · cases hplace
    · exact hplace
  intro f
  unfold write
  rw [get_bind]
  cases f.directoryOf here path with
  | error e => exact noNewDirectory_refl name f
  | ok dir =>
    rcases (splitLast path).2 with ⟨_ | last, _ | _⟩
    · exact noNewDirectory_refl name f
    · exact noNewDirectory_refl name f
    · dsimp only
      cases isSpecial (some last) with
      | true => exact noNewDirectory_refl name f
      | false =>
        rcases f.get? (dir ++ [last]) with _ | _ | _
        · exact hinsert f dir last
        · exact hinsert f dir last
        · exact noNewDirectory_refl name f
    · exact noNewDirectory_refl name f

theorem isSpecial_name {name : String} (h : IsName name) : isSpecial (some name) = false := by
  simp [isSpecial, h.2.1, h.2.2.1]

theorem write_join {here place : Place} {dir name : String} (hn : IsName name) {f : Files}
    (hdir : Leads f here dir place) (hfree : f.get? (place ++ [name]) ≠ some .directory)
    (content : Octets) :
    write here (Path.join dir name) content f =
      (.ok (), f.insert (place ++ [name]) (.file content)) := by
  unfold write
  rw [get_bind, (directoryOf_join hn f here dir place).2 hdir, splitLast_join hn]
  simp only [isSpecial_name hn, Bool.false_eq_true, if_false]
  cases hg : f.get? (place ++ [name]) with
  | none => rfl
  | some e =>
    cases e with
    | directory => exact absurd hg hfree
    | file old => rfl

/-- Writing a name in a directory changes the entry of that name only. -/
theorem write_join_ok {here : Place} {dir name : String} (hn : IsName name) {content : Octets}
    {f g : Files} (h : write here (Path.join dir name) content f = (.ok (), g)) :
    ∃ place, Leads f here dir place ∧ f.get? (place ++ [name]) ≠ some .directory ∧
      g = f.insert (place ++ [name]) (.file content) := by
  have hspecial := isSpecial_name hn
  unfold write at h
  rw [get_bind, splitLast_join hn] at h
  cases hd : f.directoryOf here (Path.join dir name) with
  | error e =>
    rw [hd] at h
    cases h
  | ok place =>
    rw [hd] at h
    simp only [hspecial] at h
    cases hg : f.get? (place ++ [name]) with
    | none =>
      rw [hg] at h
      cases h
      exact ⟨place, (directoryOf_join hn f here dir place).1 hd, by simp [hg], rfl⟩
    | some e =>
      rw [hg] at h
      cases e with
      | directory => cases h
      | file old =>
        cases h
        exact ⟨place, (directoryOf_join hn f here dir place).1 hd, by simp [hg], rfl⟩

theorem get?_erase (f : Files) {place : Place} (hne : place ≠ []) (q : Place) :
    (f.erase place).get? q = if q = place then none else f.get? q := by
  by_cases hq : q = []
  · subst hq
    simp [get?, Ne.symm hne]
  · simp only [get?, if_neg hq, erase, lookup_filter_ne]

theorem remove_of_file {here place : Place} {path : String} {content : Octets} {f : Files}
    (hplace : f.resolve here path = .ok place) (hfile : f.get? place = some (.file content)) :
    remove here path f = (.ok (), f.erase place) := by
  unfold remove
  rw [get_bind, hplace]
  dsimp only
  rw [hfile]
  rfl

theorem lookup_filter_place (p : Place → Bool) (place : Place) (es : List (Place × Entry)) :
    lookup place (es.filter fun e => p e.1) = if p place then lookup place es else none := by
  induction es with
  | nil => simp [lookup]
  | cons e es ih =>
    obtain ⟨q, d⟩ := e
    by_cases hq : q = place
    · subst hq
      cases hp : p q with
      | true =>
        rw [List.filter_cons_of_pos (by simpa using hp)]
        simp [lookup]
      | false =>
        rw [List.filter_cons_of_neg (by simp [hp]), ih]
        simp [hp]
    · have hl : lookup place ((q, d) :: es) = lookup place es := by
        rw [lookup, if_neg hq]
      rw [hl, ← ih]
      cases hp : p q with
      | true =>
        rw [List.filter_cons_of_pos (by simpa using hp), lookup, if_neg hq]
      | false => rw [List.filter_cons_of_neg (by simp [hp])]

def Cleared (f g : Files) (place : Place) : Prop :=
  (∀ q, place <+: q → q ≠ place → g.get? q = none) ∧
    ∀ q, ¬ place <+: q → g.get? q = f.get? q

theorem cleared_of_filter (f : Files) (place : Place) (p : Place → Bool)
    (hbelow : ∀ q, place <+: q → q ≠ place → p q = false)
    (helse : ∀ q, ¬ place <+: q → p q = true) :
    Cleared f ⟨f.entries.filter fun e => p e.1⟩ place := by
  constructor
  · intro q hq hne
    have hroot : q ≠ [] := by
      rintro rfl
      exact hne (List.prefix_nil.1 hq).symm
    unfold get?
    rw [if_neg hroot, lookup_filter_place, hbelow q hq hne]
    rfl
  · intro q hq
    unfold get?
    rw [lookup_filter_place, helse q hq]
    rfl

theorem removeBelow_cleared (f : Files) (place : Place) :
    Cleared f (f.removeBelow place) place := by
  apply cleared_of_filter f place fun q => !place.isPrefixOf q
  · intro q hq _
    simpa using List.isPrefixOf_iff_prefix.2 hq
  · intro q hq
    have hf : place.isPrefixOf q = false :=
      Bool.eq_false_iff.2 fun h => hq (List.isPrefixOf_iff_prefix.1 h)
    simp [hf]

theorem clear_cleared (f : Files) (place : Place) : Cleared f (f.clear place) place := by
  apply cleared_of_filter f place fun q => decide (q = place ∨ !place.isPrefixOf q)
  · intro q hq hne
    simpa [hne] using List.isPrefixOf_iff_prefix.2 hq
  · intro q hq
    have hf : place.isPrefixOf q = false :=
      Bool.eq_false_iff.2 fun h => hq (List.isPrefixOf_iff_prefix.1 h)
    simp [hf]

theorem removeTree_ok {here : Place} {path : String} {f g : Files}
    (h : removeTree here path f = (.ok (), g)) :
    ∃ place, f.resolve here path = .ok place ∧ Cleared f g place := by
  unfold removeTree at h
  rw [get_bind] at h
  cases hr : f.resolve here path with
  | error e =>
    rw [hr] at h
    cases h
  | ok place =>
    refine ⟨place, rfl, ?_⟩
    rw [hr] at h
    dsimp only at h
    cases hg : f.get? place with
    | none =>
      rw [hg] at h
      cases h
    | some e =>
      rw [hg] at h
      cases e with
      | file content => cases h
      | directory =>
        dsimp only at h
        generalize (splitLast path).2.1 = last at h
        split at h
        · cases h
          exact clear_cleared f place
        · cases h
        · cases h
          exact removeBelow_cleared f place

theorem noNewFiles_filter (f : Files) (p : Place → Bool) :
    NoNewFiles f ⟨f.entries.filter fun e => p e.1⟩ := by
  intro place content h
  unfold get? at h ⊢
  by_cases hroot : place = []
  · rw [if_pos hroot] at h
    cases h
  · rw [if_neg hroot, lookup_filter_place] at h
    rw [if_neg hroot]
    split at h
    · exact h
    · cases h

theorem removeTree_noNewFiles (here : Place) (path : String) :
    Moves NoNewFiles (removeTree here path) := by
  intro f
  unfold removeTree
  rw [get_bind]
  cases f.resolve here path with
  | error e => exact noNewFiles_refl f
  | ok place =>
    dsimp only
    cases f.get? place with
    | none => exact noNewFiles_refl f
    | some e =>
      cases e with
      | file content => exact noNewFiles_refl f
      | directory =>
        dsimp only
        generalize (splitLast path).2.1 = last
        split
        · exact noNewFiles_filter f fun q => decide (q = place ∨ !place.isPrefixOf q)
        · exact noNewFiles_filter f fun q => decide (q = place ∨ !place.isPrefixOf q)
        · exact noNewFiles_filter f fun q => !place.isPrefixOf q

end Files

namespace Action
open Sequence

theorem ofFiles_ok {α : Type} {context : String} {operation : Place → FileAction α}
    {w w' : World} {a : α} (h : ofFiles context operation w = (.ok a, w')) :
    ∃ g, operation w.here w.files = (.ok a, g) ∧ w' = { w with files := g } := by
  unfold ofFiles at h
  rcases ho : operation w.here w.files with ⟨r, g⟩
  rw [ho] at h
  cases r with
  | error e => cases h
  | ok x =>
    cases h
    exact ⟨g, rfl, rfl⟩

theorem attempt_of_eq {α : Type} {a : Action α} {result : Except Error α} {w u : World}
    (h : a w = (result, u)) : a.attempt w = (.ok result, u) := by
  unfold attempt
  rw [h]

theorem ofFiles_world {α : Type} (context : String) (operation : Place → FileAction α) (w : World) :
    (ofFiles context operation w).2 = { w with files := (operation w.here w.files).2 } := by
  unfold ofFiles
  rcases operation w.here w.files with ⟨_ | a, g⟩
  · rfl
  · rfl

theorem readText_keeps (path operation : String) : Moves Eq (readText path operation) := by
  intro w
  rw [readText, ofFiles_world, ← Files.read_keeps w.here path w.files]

theorem ofFiles_of_ok {α : Type} {operation : Place → FileAction α} {w : World} {a : α}
    {g : Files} (h : operation w.here w.files = (.ok a, g)) (context : String) :
    ofFiles context operation w = (.ok a, { w with files := g }) := by
  unfold ofFiles
  rw [h]

theorem readText_ok {path operation text : String} {w w' : World}
    (h : readText path operation w = (.ok text, w')) :
    w' = w ∧ ∃ place content, w.files.resolve w.here path = .ok place ∧
      w.files.get? place = some (.file content) ∧ Octets.text? content = some text := by
  obtain ⟨g, hr, rfl⟩ := ofFiles_ok h
  obtain ⟨rfl, hplace⟩ := Files.read_ok hr
  exact ⟨rfl, hplace⟩

theorem writeText_ok {dir name content operation : String} (hn : IsName name) {w w' : World}
    (h : writeText (Path.join dir name) content operation w = (.ok (), w')) :
    w'.here = w.here ∧ ∃ f place, Files.Grows w.files f ∧ Files.Leads f w.here dir place ∧
      f.get? (place ++ [name]) ≠ some .directory ∧
      w'.files = f.insert (place ++ [name]) (.file (Octets.ofText content)) := by
  have write (u : World) (hhere : u.here = w.here) (hu : Files.Grows w.files u.files)
      (hw : ofFiles (operation ++ ": " ++ Path.join dir name) (fun here =>
        Files.write here (Path.join dir name) (Octets.ofText content)) u = (.ok (), w')) :
      w'.here = w.here ∧ ∃ f place, Files.Grows w.files f ∧ Files.Leads f w.here dir place ∧
        f.get? (place ++ [name]) ≠ some .directory ∧
        w'.files = f.insert (place ++ [name]) (.file (Octets.ofText content)) := by
    obtain ⟨g, hg, rfl⟩ := ofFiles_ok hw
    obtain ⟨place, hl, hd, rfl⟩ := Files.write_join_ok hn hg
    exact ⟨hhere, u.files, place, hu, hhere ▸ hl, hd, rfl⟩
  unfold writeText at h
  cases hp : Path.parent? (Path.join dir name) with
  | none =>
    rw [hp] at h
    exact write w rfl (Files.grows_refl w.files) h
  | some parent =>
    rw [hp] at h
    by_cases hne : parent ≠ ""
    · simp only [if_pos hne] at h
      obtain ⟨_, u, hmake, hw⟩ := bind_ok h
      obtain ⟨g, hg, rfl⟩ := ofFiles_ok hmake
      have hgrown : Files.Grows w.files g := by
        have hmoves := Files.makeAll_grows w.here parent w.files
        rwa [hg] at hmoves
      exact write { w with files := g } rfl hgrown hw
    · simp only [if_neg hne] at h
      exact write w rfl (Files.grows_refl w.files) h

/-- In an absolute directory that is there, a name that is no directory's is written,
and nothing else happens. -/
theorem writeText_join {dir name : String} (hn : IsName name) (habs : Path.isAbsolute dir = true)
    {w : World} {place : Place} (hdir : Files.Leads w.files w.here dir place)
    (hfree : w.files.get? (place ++ [name]) ≠ some .directory) (content operation : String) :
    writeText (Path.join dir name) content operation w =
      (.ok (), { w with
        files := w.files.insert (place ++ [name]) (.file (Octets.ofText content)) }) := by
  have hparent := Files.makeAll_present (Files.resolve_parent habs hdir) hdir.2.2
  have hne : "/" ++ Text.join "/" ((Path.namesTo dir).filter fun c => c ≠ "" ∧ c ≠ ".") ≠ "" := by
    simp
  unfold writeText
  rw [Path.parent?_join hn habs]
  dsimp only
  rw [if_pos hne]
  refine (bind_of_ok (ofFiles_of_ok hparent _) _).trans ?_
  exact ofFiles_of_ok (Files.write_join hn hdir hfree _) _

def OnlyFiles (w u : World) : Prop := ∃ files, u = { w with files := files }

theorem onlyFiles_refl (w : World) : OnlyFiles w w := ⟨w.files, rfl⟩

theorem onlyFiles_trans (w u v : World) (hwu : OnlyFiles w u) (huv : OnlyFiles u v) :
    OnlyFiles w v := by
  obtain ⟨f, rfl⟩ := hwu
  obtain ⟨g, rfl⟩ := huv
  exact ⟨g, rfl⟩

theorem ofFiles_onlyFiles {α : Type} (context : String) (operation : Place → FileAction α) :
    Moves OnlyFiles (ofFiles context operation) := fun w => ⟨_, ofFiles_world context operation w⟩

theorem writeText_onlyFiles (path content operation : String) :
    Moves OnlyFiles (writeText path content operation) := by
  have hwrite := ofFiles_onlyFiles (operation ++ ": " ++ path)
    fun here => Files.write here path (Octets.ofText content)
  unfold writeText
  cases Path.parent? path with
  | none => exact hwrite
  | some parent =>
    dsimp only
    split
    · exact moves_bind onlyFiles_trans (ofFiles_onlyFiles _ _) fun _ => hwrite
    · exact hwrite

theorem writeText_noNewDirectory {dir name : String} (hn : IsName name)
    (h : name ∉ Text.split '/' dir) (content operation : String) :
    Moves (fun w u : World => Files.NoNewDirectory name w.files u.files)
      (writeText (Path.join dir name) content operation) := by
  have hwrite : Moves (fun w u : World => Files.NoNewDirectory name w.files u.files)
      (ofFiles (operation ++ ": " ++ Path.join dir name) fun here =>
        Files.write here (Path.join dir name) (Octets.ofText content)) := by
    intro w
    rw [ofFiles_world]
    exact Files.write_noNewDirectory name w.here _ _ w.files
  unfold writeText
  cases hparent : Path.parent? (Path.join dir name) with
  | none => exact hwrite
  | some parent =>
    have hfree : name ∉ Text.split '/' parent := by
      intro hmem
      rcases Path.mem_split_parent hparent hmem with e | hmem
      · exact hn.1 e
      · rw [Path.components_join hn, List.dropLast_concat] at hmem
        exact h (Path.mem_namesTo (List.mem_filter.1 hmem).1)
    dsimp only
    split
    · refine moves_bind (R := fun w u : World => Files.NoNewDirectory name w.files u.files)
        (fun _ _ _ => Files.noNewDirectory_trans name _ _ _) ?_ fun _ => hwrite
      intro w
      rw [ofFiles_world]
      exact Files.makeAll_noNewDirectory hn.1 hfree w.here w.files
    · exact hwrite

theorem writeText_world {path content operation : String} {w u : World} {result : Except Error Unit}
    (h : writeText path content operation w = (result, u)) :
    ∃ files, u = { w with files := files } := by
  have hmoves := writeText_onlyFiles path content operation w
  rwa [h] at hmoves

theorem find?_of_writeText {dir name content operation : String} (hn : IsName name) {w u : World}
    (h : writeText (Path.join dir name) content operation w = (.ok (), u)) :
    u.files.find? u.here (Path.join dir name) = some (.file (Octets.ofText content)) := by
  obtain ⟨hhere, f, place, -, hdir, hfree, hfiles⟩ := writeText_ok hn h
  have hne : place ++ [name] ≠ [] := by simp
  have hkept :=
    Files.leads_keeps (Files.keeps_insert_file f _ (Octets.ofText content) hne hfree) hdir
  rw [hhere, hfiles, Files.find?_join_name hn hkept, Files.get?_insert f _ _ _ hne, if_pos rfl]

theorem removing_onlyFiles (path operation : String) (take : Place → FileAction Unit) :
    Moves OnlyFiles (do if ← fileExists path then ofFiles operation take : Action Unit) := by
  apply moves_bind onlyFiles_trans
  · exact onlyFiles_refl
  · intro there
    split
    · exact ofFiles_onlyFiles _ _
    · exact moves_pure onlyFiles_refl ()

theorem removeDirectory_onlyFiles (path operation : String) :
    Moves OnlyFiles (removeDirectory path operation) :=
  removing_onlyFiles path operation _

theorem remove_of_none {path operation : String} {w : World}
    (h : w.files.find? w.here path = none) : remove path operation w = (.ok (), w) := by
  have hexists : w.files.exists? w.here path = false := by
    rw [Files.exists?, h]
    rfl
  unfold remove
  refine (bind_of_ok (x := w.files.exists? w.here path) rfl _).trans ?_
  rw [hexists]
  rfl

theorem remove_of_resolve {path operation : String} {w : World} {place : Place}
    (hplace : w.files.resolve w.here path = .ok place) (h : (w.files.get? place).isSome) :
    remove path operation w = ofFiles operation (fun here => Files.remove here path) w := by
  have hexists : w.files.exists? w.here path = true := by
    simpa [Files.exists?, Files.find?, hplace] using h
  unfold remove
  refine (bind_of_ok (x := w.files.exists? w.here path) rfl _).trans ?_
  rw [hexists]
  rfl

theorem removeDirectory_noNewFiles (path operation : String) :
    Moves (fun w u : World => Files.NoNewFiles w.files u.files)
      (removeDirectory path operation) := by
  intro w
  have hremoved := Files.removeTree_noNewFiles w.here path w.files
  change Files.NoNewFiles w.files ((if w.files.exists? w.here path then
    ofFiles operation fun here => Files.removeTree here path else pure ()) w).2.files
  split
  · rw [ofFiles_world]
    exact hremoved
  · exact Files.noNewFiles_refl w.files

theorem removeDirectory_ok {path operation : String} {w w' : World} {place : Place}
    (hr : w.files.resolve w.here path = .ok place) (hp : (w.files.get? place).isSome)
    (h : removeDirectory path operation w = (.ok (), w')) :
    Files.Cleared w.files w'.files place := by
  have hexists : w.files.exists? w.here path = true := by
    unfold Files.exists? Files.find?
    rw [hr]
    exact hp
  unfold removeDirectory at h
  obtain ⟨b, u, hb, hrest⟩ := bind_ok h
  cases hb
  rw [if_pos hexists] at hrest
  obtain ⟨g, hg, rfl⟩ := ofFiles_ok hrest
  obtain ⟨q, hq, hcleared⟩ := Files.removeTree_ok hg
  rw [hr] at hq
  cases hq
  exact hcleared

end Action
end OrgPipeline
