import OrgPipeline.Proofs.Text.Split
import OrgPipeline.Proofs.World.Files

/-!
# A name in a directory

A path joined from a directory and a plain name leads to that name in the place
where the directory is. Which place that is does not depend on the name, and it
is the place to which the path of the directory leads.
-/

set_option autoImplicit false

namespace OrgPipeline

/-- A name that stands for an entry of its own: not empty, no dots, and neither
a slash nor the null character in it. -/
def IsName (name : String) : Prop :=
  name ≠ "" ∧ name ≠ "." ∧ name ≠ ".." ∧ '/' ∉ name.toList ∧ '\x00' ∉ name.toList

instance (name : String) : Decidable (IsName name) :=
  inferInstanceAs (Decidable (_ ∧ _ ∧ _ ∧ _ ∧ _))

namespace IsName
variable {name : String}

theorem plain (h : IsName name) : Files.Plain name := ⟨h.1, h.2.1, h.2.2.1⟩

theorem not_absolute (h : IsName name) : Path.isAbsolute name = false := by
  unfold Path.isAbsolute
  cases hl : name.toList with
  | nil => rfl
  | cons c cs =>
    have hs : '/' ∉ c :: cs := hl ▸ h.2.2.2.1
    simp only [List.mem_cons, not_or] at hs
    simpa using Ne.symm hs.1

theorem split_eq (h : IsName name) : Text.split '/' name = [name] := by
  unfold Text.split
  rw [Text.splitList_of_not_mem '/' _ h.2.2.2.1]
  simp

end IsName

namespace Path

theorem split_slash (d path : String) :
    Text.split '/' (d ++ "/" ++ path) = Text.split '/' d ++ Text.split '/' path := by
  have hl : (d ++ "/" ++ path).toList = d.toList ++ '/' :: path.toList := by simp
  rw [Text.split, hl, Text.splitList_append_sep, List.map_append]
  rfl

def namesTo (dir : String) : List String :=
  if dir = "" then []
  else if dir.toList.getLast? = some '/' then (Text.split '/' dir).dropLast
  else Text.split '/' dir

def withSlash (dir : String) : String :=
  if dir = "" ∨ dir.toList.getLast? = some '/' then dir else dir ++ "/"

theorem join_relative {path : String} (h : isAbsolute path = false) (dir : String) :
    join dir path = withSlash dir ++ path := by
  unfold join withSlash
  rw [if_neg (by simp [h])]
  split <;> rfl

theorem withSlash_cases {dir : String} (h : dir ≠ "") :
    ∃ d, withSlash dir = d ++ "/" ∧ (dir = d ++ "/" ∨ dir = d ∧ d ≠ "") := by
  unfold withSlash
  by_cases hslash : dir.toList.getLast? = some '/'
  · obtain ⟨cs, hcs⟩ := List.getLast?_eq_some_iff.1 hslash
    have hd : dir = String.ofList cs ++ "/" := by
      apply String.toList_injective
      simp [hcs]
    exact ⟨String.ofList cs, by rw [if_pos (Or.inr hslash), ← hd], Or.inl hd⟩
  · exact ⟨dir, by rw [if_neg (by simp [h, hslash])], Or.inr ⟨rfl, h⟩⟩

theorem isAbsolute_append {a : String} (h : a ≠ "") (b : String) :
    isAbsolute (a ++ b) = isAbsolute a := by
  unfold isAbsolute
  cases ha : a.toList with
  | nil => exact absurd (String.toList_injective ha) h
  | cons c cs => simp [ha]

theorem join_cases (dir : String) :
    (dir = "" ∧ namesTo dir = [] ∧ ∀ name, IsName name → join dir name = name) ∨
      ∃ d, (dir = d ++ "/" ∨ dir = d ∧ d ≠ "") ∧ namesTo dir = Text.split '/' d ∧
        ∀ name, IsName name → join dir name = d ++ "/" ++ name := by
  by_cases h₀ : dir = ""
  · subst h₀
    refine Or.inl ⟨rfl, rfl, ?_⟩
    intro name hn
    rw [join_relative hn.not_absolute]
    rfl
  · right
    obtain ⟨d, hslash, hd⟩ := withSlash_cases h₀
    refine ⟨d, hd, ?_, ?_⟩
    · unfold namesTo
      rw [if_neg h₀]
      rcases hd with rfl | ⟨rfl, -⟩
      · have hsplit := split_slash d ""
        rw [String.append_empty] at hsplit
        rw [if_pos (by simp), hsplit]
        exact List.dropLast_concat
      · rw [if_neg]
        intro hlast
        rw [withSlash, if_pos (Or.inr hlast)] at hslash
        have := congrArg String.length hslash
        simp at this
    · intro name hn
      rw [join_relative hn.not_absolute, hslash]

theorem split_join {name : String} (h : IsName name) (dir : String) :
    Text.split '/' (join dir name) = namesTo dir ++ [name] := by
  rcases join_cases dir with ⟨-, hn, hj⟩ | ⟨d, -, hn, hj⟩
  · rw [hj name h, hn, h.split_eq]
    rfl
  · rw [hj name h, hn, split_slash, h.split_eq]

theorem join_ne_empty {name : String} (h : IsName name) (dir : String) : join dir name ≠ "" := by
  intro he
  rcases join_cases dir with ⟨-, -, hj⟩ | ⟨d, -, -, hj⟩
  · exact h.1 (hj name h ▸ he)
  · have hl := congrArg String.toList (hj name h ▸ he)
    simp at hl

theorem isAbsolute_join {name : String} (h : IsName name) (dir : String) :
    isAbsolute (join dir name) = isAbsolute dir := by
  rcases join_cases dir with ⟨rfl, -, hj⟩ | ⟨d, hd, -, hj⟩
  · rw [hj name h, h.not_absolute]
    rfl
  · rw [hj name h]
    unfold isAbsolute
    rcases hd with rfl | ⟨rfl, hne⟩
    · cases hl : d.toList <;> simp [hl]
    · cases hl : dir.toList with
      | nil => exact absurd (String.toList_injective hl) hne
      | cons c cs => simp [hl]

theorem components_join {name : String} (h : IsName name) (dir : String) :
    components (join dir name) = ((namesTo dir).filter fun c => c ≠ "" ∧ c ≠ ".") ++ [name] := by
  rw [components, split_join h, List.filter_append,
    List.filter_cons_of_pos (by simpa using ⟨h.1, h.2.1⟩), List.filter_nil]

theorem parent?_join {name dir : String} (h : IsName name) (habs : isAbsolute dir = true) :
    parent? (join dir name) =
      some ("/" ++ Text.join "/" ((namesTo dir).filter fun c => c ≠ "" ∧ c ≠ ".")) := by
  unfold parent?
  rw [components_join h, isAbsolute_join h, habs]
  cases hcs : ((namesTo dir).filter fun c => c ≠ "" ∧ c ≠ ".") ++ [name] with
  | nil => simp at hcs
  | cons c cs =>
    dsimp only
    rw [← hcs, List.dropLast_concat]
    rfl

theorem mem_namesTo {dir n : String} (h : n ∈ namesTo dir) : n ∈ Text.split '/' dir := by
  by_cases hdir : dir = ""
  · rw [namesTo, if_pos hdir] at h
    exact absurd h List.not_mem_nil
  · rw [namesTo, if_neg hdir] at h
    split at h
    · exact List.dropLast_subset _ h
    · exact h

theorem mem_split_join {a b n : String} (h : n ∈ Text.split '/' (join a b)) :
    n ∈ Text.split '/' a ∨ n ∈ Text.split '/' b := by
  cases hb : isAbsolute b with
  | true =>
    rw [join.eq_1, if_pos hb] at h
    exact Or.inr h
  | false =>
    rw [join_relative hb] at h
    by_cases ha : a = ""
    · subst ha
      exact Or.inr (by simpa [withSlash] using h)
    · obtain ⟨d, hslash, hd⟩ := withSlash_cases ha
      rw [hslash, split_slash, List.mem_append] at h
      rcases h with h | h
      · left
        rcases hd with rfl | ⟨rfl, -⟩
        · have hsplit := split_slash d ""
          rw [String.append_empty] at hsplit
          rw [hsplit]
          exact List.mem_append_left _ h
        · exact h
      · exact Or.inr h

/-- The directory above a path has no other names than the path, apart from the empty one. -/
theorem mem_split_parent {path parent n : String} (hparent : parent? path = some parent)
    (h : n ∈ Text.split '/' parent) : n = "" ∨ n ∈ (components path).dropLast := by
  have hsplit (names : List String) (hnames : ∀ m ∈ names, m ∈ components path)
      (hn : n ∈ Text.split '/' (Text.join "/" names)) : n = "" ∨ n ∈ names := by
    by_cases hne : names = []
    · subst hne
      exact Or.inl (by simpa [Text.join, Text.split, Text.splitList] using hn)
    · have hslash : ∀ m ∈ names, '/' ∉ m.toList := by
        intro m hm
        obtain ⟨cs, hcs, rfl⟩ := List.mem_map.1 (List.mem_filter.1 (hnames m hm)).1
        rw [String.toList_ofList]
        exact Text.not_mem_of_mem_splitList hcs
      have hpieces := Text.splitList_join '/' hne hslash
      have hsep : '/'.toString = "/" := by decide
      rw [hsep] at hpieces
      right
      simpa [Text.split, hpieces, Function.comp_def] using hn
  unfold parent? at hparent
  split at hparent
  · cases hparent
  · cases hparent
    have hsub : ∀ m ∈ (components path).dropLast, m ∈ components path :=
      fun m hm => List.dropLast_subset _ hm
    split at h
    · have habove := split_slash "" (Text.join "/" (components path).dropLast)
      rw [String.empty_append] at habove
      rw [habove, List.mem_append] at h
      rcases h with h | h
      · exact Or.inl (by simpa [Text.split, Text.splitList] using h)
      · exact hsplit _ hsub h
    · rw [String.empty_append] at h
      exact hsplit _ hsub h

theorem split_directory {dir : String} (h : dir ≠ "") :
    Text.split '/' dir = namesTo dir ∨ Text.split '/' dir = namesTo dir ++ [""] := by
  rcases join_cases dir with ⟨he, -, -⟩ | ⟨d, hd, hn, -⟩
  · exact absurd he h
  · rcases hd with rfl | ⟨rfl, -⟩
    · right
      have hsplit := split_slash d ""
      rw [String.append_empty] at hsplit
      rw [hn, hsplit]
      rfl
    · exact Or.inl hn.symm

theorem withSlash_append (a b : String) :
    withSlash (withSlash a ++ b) = withSlash a ++ withSlash b := by
  by_cases hb : b = ""
  · subst hb
    have hempty : withSlash "" = "" := rfl
    rw [hempty, String.append_empty]
    by_cases ha : a = "" ∨ a.toList.getLast? = some '/'
    · simp [withSlash, ha]
    · simp [withSlash, ha]
  · -- the last character of the longer text is that of the second
    have hlast : (withSlash a ++ b).toList.getLast? = b.toList.getLast? := by
      rw [String.toList_append, List.getLast?_append]
      cases hl : b.toList.getLast? with
      | none => exact absurd (String.toList_injective (List.getLast?_eq_none_iff.1 hl)) hb
      | some c => rfl
    have hne : withSlash a ++ b ≠ "" := by
      intro h
      have := congrArg String.toList h
      rw [String.toList_append, String.toList_empty, List.append_eq_nil_iff] at this
      exact hb (String.toList_injective this.2)
    rw [withSlash, hlast, withSlash.eq_1 b]
    simp only [hne, hb, false_or]
    split
    · rfl
    · rw [String.append_assoc]

theorem join_assoc {name : String} (h : IsName name) (a b : String) :
    join a (join b name) = join (join a b) name := by
  cases hb : isAbsolute b with
  | true =>
    have hfile : isAbsolute (join b name) = true := by rw [isAbsolute_join h, hb]
    rw [join.eq_1 a b, if_pos hb, join.eq_1 a, if_pos hfile]
  | false =>
    have hfile : isAbsolute (join b name) = false := by rw [isAbsolute_join h, hb]
    rw [join_relative hfile, join_relative h.not_absolute, join_relative hb,
      join_relative h.not_absolute, withSlash_append, String.append_assoc]

end Path

namespace Files

theorem hasNul_append (a b : String) : hasNul (a ++ b) = (hasNul a || hasNul b) := by
  unfold hasNul
  rw [String.toList_append, Bool.eq_iff_iff]
  simp

theorem hasNul_join {name : String} (h : IsName name) (dir : String) :
    hasNul (Path.join dir name) = hasNul dir := by
  have hname : hasNul name = false := by
    unfold hasNul
    simpa using h.2.2.2.2
  have hslash : hasNul "/" = false := by decide
  rcases Path.join_cases dir with ⟨rfl, -, hj⟩ | ⟨d, hd, -, hj⟩
  · rw [hj name h, hname]
    rfl
  · rw [hj name h, hasNul_append, hasNul_append, hname]
    rcases hd with rfl | ⟨rfl, -⟩
    · simp [hasNul_append]
    · simp [hslash]

theorem startOf_join {name : String} (h : IsName name) (here : Place) (dir : String) :
    startOf here (Path.join dir name) = startOf here dir := by
  unfold startOf
  rw [Path.isAbsolute_join h]

theorem splitLast_join {name : String} (h : IsName name) (dir : String) :
    splitLast (Path.join dir name) = (Path.namesTo dir, some name, false) := by
  unfold splitLast
  rw [Path.split_join h]
  simp [h.1]

/-- The path of a directory leads to a place: names joined to it are found
there. -/
def Leads (f : Files) (here : Place) (dir : String) (place : Place) : Prop :=
  hasNul dir = false ∧ f.follow (startOf here dir) (Path.namesTo dir) = .ok place ∧
    f.get? place = some .directory

theorem leads_unique {f : Files} {here : Place} {dir : String} {p q : Place}
    (hp : Leads f here dir p) (hq : Leads f here dir q) : p = q := by
  have he := hp.2.1.symm.trans hq.2.1
  cases he
  rfl

theorem leads_keeps {f g : Files} (h : Keeps f g) {here : Place} {dir : String} {place : Place}
    (hf : Leads f here dir place) : Leads g here dir place :=
  ⟨hf.1, follow_keeps h _ _ _ hf.2.1, h.1 place hf.2.2⟩

theorem directoryOf_join {name : String} (h : IsName name) (f : Files) (here : Place)
    (dir : String) (place : Place) :
    f.directoryOf here (Path.join dir name) = .ok place ↔ Leads f here dir place := by
  unfold directoryOf Leads
  rw [hasNul_join h, if_neg (Path.join_ne_empty h dir), startOf_join h, splitLast_join h]
  cases hasNul dir with
  | true => simp
  | false =>
    simp only [Bool.false_eq_true, if_false, true_and]
    cases hf : f.follow (startOf here dir) (Path.namesTo dir) with
    | error e => simp
    | ok q =>
      simp only [Except.ok.injEq]
      constructor
      · intro hm
        split at hm
        · next hd =>
          cases hm
          exact ⟨rfl, hd⟩
        · cases hm
        · cases hm
      · rintro ⟨rfl, hd⟩
        simp [hd]

theorem resolve_join {name : String} (h : IsName name) (f : Files) (here : Place)
    (dir : String) (p : Place) :
    f.resolve here (Path.join dir name) = .ok p ↔
      ∃ place, Leads f here dir place ∧ p = place ++ [name] ∧ (f.get? p).isSome := by
  unfold resolve Leads
  rw [hasNul_join h, if_neg (Path.join_ne_empty h dir), startOf_join h, Path.split_join h,
    follow_append]
  cases hasNul dir with
  | true => simp
  | false =>
    simp only [Bool.false_eq_true, if_false, true_and]
    cases hf : f.follow (startOf here dir) (Path.namesTo dir) with
    | error e => simp [Except.bind]
    | ok q =>
      simp only [Except.bind, follow_plain f q p name h.plain, Except.ok.injEq]
      constructor
      · rintro ⟨hd, hp, hs⟩
        exact ⟨q, ⟨rfl, hd⟩, hp, hs⟩
      · rintro ⟨_, ⟨rfl, hd⟩, hp, hs⟩
        exact ⟨hd, hp, hs⟩

theorem resolve_ok_iff {f : Files} {here place : Place} {path : String} :
    f.resolve here path = .ok place ↔
      hasNul path = false ∧ path ≠ "" ∧
        f.follow (startOf here path) (Text.split '/' path) = .ok place := by
  unfold resolve
  by_cases hnul : hasNul path = true
  · simp [hnul]
  by_cases hne : path = ""
  · subst hne
    simp [hasNul]
  · simp [hnul, hne]

theorem resolve_parent {f : Files} {here place : Place} {dir : String}
    (habs : Path.isAbsolute dir = true) (h : Leads f here dir place) :
    f.resolve here ("/" ++ Text.join "/"
      ((Path.namesTo dir).filter fun c => c ≠ "" ∧ c ≠ ".")) = .ok place := by
  obtain ⟨hnul, hfollow, -⟩ := h
  have hstart : startOf here dir = [] := by rw [startOf, if_pos habs]
  have hnames := follow_filter (hstart ▸ hfollow)
  have hpiece : ∀ n ∈ (Path.namesTo dir).filter (fun c => c ≠ "" ∧ c ≠ "."),
      ∃ cs ∈ Text.splitList '/' dir.toList, n = String.ofList cs := by
    intro n hn
    obtain ⟨cs, hcs, rfl⟩ := List.mem_map.1 (Path.mem_namesTo (List.mem_filter.1 hn).1)
    exact ⟨cs, hcs, rfl⟩
  generalize (Path.namesTo dir).filter (fun c => c ≠ "" ∧ c ≠ ".") = names at hnames hpiece
  have hslash : ∀ n ∈ names, '/' ∉ n.toList := by
    intro n hn
    obtain ⟨cs, hcs, rfl⟩ := hpiece n hn
    rw [String.toList_ofList]
    exact Text.not_mem_of_mem_splitList hcs
  refine resolve_ok_iff.2 ⟨?_, by simp, ?_⟩
  · have hjoined : '\x00' ∉ (Text.join "/" names).toList := by
      intro hmem
      rcases @Text.mem_toList_join '/' _ _ hmem with he | ⟨n, hn, hc⟩
      · exact absurd he (by decide)
      · obtain ⟨cs, hcs, rfl⟩ := hpiece n hn
        rw [String.toList_ofList] at hc
        have := Text.mem_of_mem_splitList hcs hc
        simp [hasNul, this] at hnul
    rw [hasNul_append]
    simpa [hasNul] using hjoined
  · have hsplit : Text.split '/' ("/" ++ Text.join "/" names) =
        "" :: Text.split '/' (Text.join "/" names) := by
      have := Path.split_slash "" (Text.join "/" names)
      rwa [String.empty_append] at this
    have habsolute : Path.isAbsolute ("/" ++ Text.join "/" names) = true := by
      rw [Path.isAbsolute_append (by decide)]
      decide
    rw [hsplit, startOf, if_pos habsolute, follow, get?_root]
    simp only [true_or, if_true]
    by_cases hne : names = []
    · subst hne
      simpa [follow, Text.join, Text.split, Text.splitList, get?_root] using hnames
    · have hback : Text.split '/' (Text.join "/" names) = names := by
        have hpieces := Text.splitList_join '/' hne hslash
        have hsep : '/'.toString = "/" := by decide
        rw [hsep] at hpieces
        simp [Text.split, hpieces, Function.comp_def]
      rwa [hback]

/-- A path joined from a directory and a name leads to an entry exactly if the directory is
there and has an entry of that name. -/
theorem find?_join_name {name : String} (h : IsName name) {f : Files} {here : Place}
    {dir : String} {place : Place} (hdir : Leads f here dir place) :
    f.find? here (Path.join dir name) = f.get? (place ++ [name]) := by
  unfold find?
  cases hr : f.resolve here (Path.join dir name) with
  | ok p =>
    obtain ⟨q, hq, rfl, -⟩ := (resolve_join h f here dir p).1 hr
    rw [leads_unique hdir hq]
  | error e =>
    cases hg : f.get? (place ++ [name]) with
    | none => rfl
    | some entry =>
      have hfound := (resolve_join h f here dir _).2 ⟨place, hdir, rfl, by simp [hg]⟩
      rw [hr] at hfound
      cases hfound

theorem exists_of_find?_join {name : String} (h : IsName name) {f : Files} {here : Place}
    {dir : String} {e : Entry} (hfind : f.find? here (Path.join dir name) = some e) :
    ∃ place, Leads f here dir place ∧ f.get? (place ++ [name]) = some e := by
  unfold find? at hfind
  split at hfind
  · next p hp =>
    obtain ⟨place, hdir, rfl, -⟩ := (resolve_join h f here dir p).1 hp
    exact ⟨place, hdir, hfind⟩
  · cases hfind

theorem resolve_of_leads {f : Files} {here : Place} {dir : String} {place : Place}
    (hne : dir ≠ "") (h : Leads f here dir place) : f.resolve here dir = .ok place := by
  unfold resolve
  rw [if_neg (by simp [h.1]), if_neg hne]
  rcases Path.split_directory hne with hs | hs
  · rw [hs]
    exact h.2.1
  · rw [hs, follow_append, h.2.1]
    simp [Except.bind, follow, h.2.2]

/-- From the place where a directory is, a path leads to where it leads when joined to the
directory. -/
theorem find?_join {f : Files} {here place : Place} {dir path : String}
    (hdir : f.resolve here dir = .ok place) (hpath : path ≠ "") :
    f.find? here (Path.join dir path) = f.find? place path := by
  cases habs : Path.isAbsolute path with
  | true =>
    rw [Path.join.eq_1, if_pos habs]
    simp [find?, resolve, startOf, habs]
  | false =>
    obtain ⟨hnul, hne, hfollow⟩ := resolve_ok_iff.1 hdir
    obtain ⟨d, hslash, hd⟩ := Path.withSlash_cases hne
    have hjoin : Path.join dir path = d ++ "/" ++ path := by rw [Path.join_relative habs, hslash]
    have hnul' : hasNul (d ++ "/") = false := by
      rcases hd with rfl | ⟨rfl, -⟩
      · exact hnul
      · rw [hasNul_append, hnul]
        rfl
    have hstart : startOf here (d ++ "/" ++ path) = startOf here dir := by
      unfold startOf
      rw [Path.isAbsolute_append (by simp)]
      rcases hd with rfl | ⟨rfl, hd⟩
      · rfl
      · rw [Path.isAbsolute_append hd]
    -- a slash after the directory leads nowhere else
    have hdfollow : f.follow (startOf here dir) (Text.split '/' d) = .ok place := by
      rcases hd with rfl | ⟨rfl, -⟩
      · have hsplit := Path.split_slash d ""
        rw [String.append_empty] at hsplit
        rw [hsplit, follow_append] at hfollow
        cases hq : f.follow (startOf here (d ++ "/")) (Text.split '/' d) with
        | error e =>
          rw [hq] at hfollow
          cases hfollow
        | ok q =>
          rw [hq] at hfollow
          change f.follow q [""] = .ok place at hfollow
          unfold follow at hfollow
          split at hfollow
          · cases hfollow
          · cases hfollow
          · simpa [follow] using hfollow
      · exact hfollow
    have hresolve : f.resolve here (d ++ "/" ++ path) = f.resolve place path := by
      have hplaceStart : startOf place path = place := by simp [startOf, habs]
      have hjoined : d ++ "/" ++ path ≠ "" := by simp
      unfold resolve
      rw [hasNul_append, hnul', Bool.false_or, hstart, Path.split_slash, follow_append, hdfollow,
        if_neg hpath, if_neg hjoined, hplaceStart]
      rfl
    rw [hjoin, find?, find?, hresolve]

end Files
end OrgPipeline
