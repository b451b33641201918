import OrgPipeline.World.Files
import OrgPipeline.Proofs.Sequence

/-!
# What operations leave as it was

Making directories only adds entries where there were none. Writing changes one
place, and removing a tree takes away what lies below one place. As long as
directories stay directories and files stay files, a path that led somewhere
leads there still.
-/

set_option autoImplicit false

namespace OrgPipeline.Files
open Sequence

def Extends (f g : Files) : Prop := ∀ place e, f.get? place = some e → g.get? place = some e

def NoNewFiles (f g : Files) : Prop :=
  ∀ place content, g.get? place = some (.file content) → f.get? place = some (.file content)

structure Grows (f g : Files) : Prop where
  kept : Extends f g
  files : NoNewFiles f g

def NoNewDirectory (name : String) (f g : Files) : Prop :=
  ∀ place, g.get? (place ++ [name]) = some .directory → f.get? (place ++ [name]) = some .directory

def NoDirectory (name : String) (f : Files) : Prop :=
  ∀ place, f.get? (place ++ [name]) ≠ some .directory

def Keeps (f g : Files) : Prop :=
  (∀ place, f.get? place = some .directory → g.get? place = some .directory) ∧
    ∀ place, (f.get? place).isSome → (g.get? place).isSome

theorem extends_refl (f : Files) : Extends f f := fun _ _ h => h

theorem extends_trans (f g h : Files) (hfg : Extends f g) (hgh : Extends g h) : Extends f h :=
  fun place e he => hgh place e (hfg place e he)

theorem noNewFiles_refl (f : Files) : NoNewFiles f f := fun _ _ h => h

theorem noNewFiles_trans (f g h : Files) (hfg : NoNewFiles f g) (hgh : NoNewFiles g h) :
    NoNewFiles f h :=
  fun place content hc => hfg place content (hgh place content hc)

theorem noNewDirectory_refl (name : String) (f : Files) : NoNewDirectory name f f := fun _ h => h

theorem noNewDirectory_trans (name : String) (f g h : Files) (hfg : NoNewDirectory name f g)
    (hgh : NoNewDirectory name g h) : NoNewDirectory name f h :=
  fun place hp => hfg place (hgh place hp)

theorem NoDirectory.mono {name : String} {f g : Files} (hf : NoDirectory name f)
    (hfg : NoNewDirectory name f g) : NoDirectory name g :=
  fun place hp => hf place (hfg place hp)

theorem grows_refl (f : Files) : Grows f f := ⟨extends_refl f, noNewFiles_refl f⟩

theorem grows_trans (f g h : Files) (hfg : Grows f g) (hgh : Grows g h) : Grows f h :=
  ⟨extends_trans f g h hfg.kept hgh.kept, noNewFiles_trans f g h hfg.files hgh.files⟩

theorem keeps_of_extends {f g : Files} (h : Extends f g) : Keeps f g := by
  constructor
  · intro place hp
    exact h place _ hp
  · intro place hp
    obtain ⟨e, he⟩ := Option.isSome_iff_exists.1 hp
    exact Option.isSome_iff_exists.2 ⟨e, h place e he⟩

theorem keeps_trans {f g h : Files} (hfg : Keeps f g) (hgh : Keeps g h) : Keeps f h :=
  ⟨fun place hp => hgh.1 place (hfg.1 place hp), fun place hp => hgh.2 place (hfg.2 place hp)⟩

theorem get?_root (f : Files) : f.get? [] = some .directory := by
  simp [get?]

theorem ne_root_of_none {f : Files} {place : Place} (h : f.get? place = none) : place ≠ [] := by
  rintro rfl
  rw [get?_root] at h
  cases h

theorem grows_insert_directory (f : Files) (place : Place) (h : f.get? place = none) :
    Grows f (f.insert place .directory) := by
  have hne := ne_root_of_none h
  constructor
  · intro q d hq
    rw [get?_insert f place q _ hne]
    by_cases hqp : q = place
    · rw [hqp, h] at hq
      cases hq
    · rwa [if_neg hqp]
  · intro q content hq
    rw [get?_insert f place q _ hne] at hq
    by_cases hqp : q = place
    · rw [if_pos hqp] at hq
      cases hq
    · rwa [if_neg hqp] at hq

theorem keeps_insert_file (f : Files) (place : Place) (content : Octets) (hne : place ≠ [])
    (h : f.get? place ≠ some .directory) : Keeps f (f.insert place (.file content)) := by
  constructor
  · intro q hq
    rw [get?_insert f place q _ hne]
    by_cases hqp : q = place
    · exact absurd (hqp ▸ hq) h
    · rwa [if_neg hqp]
  · intro q hq
    rw [get?_insert f place q _ hne]
    by_cases hqp : q = place
    · simp [hqp]
    · rwa [if_neg hqp]

theorem follow_append (f : Files) (place : Place) (names more : List String) :
    f.follow place (names ++ more) =
      (f.follow place names).bind fun q => f.follow q more := by
  induction names generalizing place with
  | nil => rfl
  | cons name names ih =>
    simp only [List.cons_append, follow]
    cases f.get? place with
    | none => rfl
    | some e =>
      cases e with
      | file content => rfl
      | directory =>
        by_cases h₁ : name = "" ∨ name = "."
        · simp only [if_pos h₁, ih]
        · by_cases h₂ : name = ".."
          · simp only [if_neg h₁, if_pos h₂, ih]
          · simp only [if_neg h₁, if_neg h₂]
            cases f.get? (place ++ [name]) with
            | none => rfl
            | some e => exact ih _

theorem follow_keeps {f g : Files} (h : Keeps f g) (names : List String) (place q : Place)
    (hf : f.follow place names = .ok q) : g.follow place names = .ok q := by
  induction names generalizing place with
  | nil => exact hf
  | cons name names ih =>
    rw [follow] at hf ⊢
    cases hp : f.get? place with
    | none => simp [hp] at hf
    | some e =>
      cases e with
      | file content => simp [hp] at hf
      | directory =>
        rw [hp] at hf
        rw [h.1 place hp]
        by_cases h₁ : name = "" ∨ name = "."
        · simp only [if_pos h₁] at hf ⊢
          exact ih _ hf
        · by_cases h₂ : name = ".."
          · simp only [if_neg h₁, if_pos h₂] at hf ⊢
            exact ih _ hf
          · simp only [if_neg h₁, if_neg h₂] at hf ⊢
            cases hn : f.get? (place ++ [name]) with
            | none => simp [hn] at hf
            | some e =>
              rw [hn] at hf
              obtain ⟨d, hd⟩ := Option.isSome_iff_exists.1
                (h.2 (place ++ [name]) (by simp [hn]))
              rw [hd]
              exact ih _ hf

/-- Empty names and single dots lead nowhere else. -/
theorem follow_filter {f : Files} {names : List String} {place q : Place}
    (h : f.follow place names = .ok q) :
    f.follow place (names.filter fun n => n ≠ "" ∧ n ≠ ".") = .ok q := by
  induction names generalizing place with
  | nil => exact h
  | cons name names ih =>
    rw [follow] at h
    cases hp : f.get? place with
    | none => simp [hp] at h
    | some e =>
      cases e with
      | file content => simp [hp] at h
      | directory =>
        rw [hp] at h
        dsimp only at h
        by_cases h₁ : name = "" ∨ name = "."
        · rw [if_pos h₁] at h
          rw [List.filter_cons_of_neg (by rcases h₁ with rfl | rfl <;> decide)]
          exact ih h
        · rw [if_neg h₁] at h
          rw [List.filter_cons_of_pos (by simpa [not_or] using h₁), follow, hp]
          dsimp only
          rw [if_neg h₁]
          by_cases h₂ : name = ".."
          · rw [if_pos h₂] at h ⊢
            exact ih h
          · rw [if_neg h₂] at h ⊢
            cases hn : f.get? (place ++ [name]) with
            | none => simp [hn] at h
            | some e =>
              rw [hn] at h
              exact ih h

def Plain (name : String) : Prop := name ≠ "" ∧ name ≠ "." ∧ name ≠ ".."

theorem follow_plain (f : Files) (place q : Place) (name : String) (hn : Plain name) :
    f.follow place [name] = .ok q ↔
      f.get? place = some .directory ∧ q = place ++ [name] ∧ (f.get? q).isSome := by
  obtain ⟨h₀, h₁, h₂⟩ := hn
  rw [follow]
  cases hp : f.get? place with
  | none => simp
  | some e =>
    cases e with
    | file content => simp
    | directory =>
      simp only [h₀, h₁, h₂, or_self, if_false]
      cases hq : f.get? (place ++ [name]) with
      | none =>
        constructor
        · intro h
          cases h
        · rintro ⟨-, rfl, hs⟩
          simp [hq] at hs
      | some e =>
        constructor
        · intro h
          cases h
          simp [hq]
        · rintro ⟨-, rfl, -⟩
          rfl

end OrgPipeline.Files
