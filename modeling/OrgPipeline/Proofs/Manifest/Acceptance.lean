import OrgPipeline.ChangeSet.Diff
import OrgPipeline.Manifest.Reader
import OrgPipeline.Proofs.ChangeSet.Counts
import OrgPipeline.Proofs.Xml.Nesting

/-!
# Which texts are read as manifests

The reader accepts every text whose elements are all closed. It asks for no
root: a text without a package, an empty one too, is read as a manifest that
lists nothing, and a comparison with it takes every component of the other side
for deleted or added.
-/

set_option autoImplicit false

namespace OrgPipeline.Manifest

open Xml

def packageName : String := "Package"

def Readable (r : Root) : Prop :=
  r.name = packageName → (Progress.xmlns? r.attributes).isSome

namespace Progress

theorem closed_path (p : Progress) : p.closed.path = p.path.dropLast := by
  unfold closed
  cases p.awaited with
  | some element =>
    cases element with
    | version => rfl
    | member =>
      simp only [taken]
      split <;> rfl
    | name =>
      simp only [taken]
      split <;> rfl
  | none =>
    simp only
    split
    · split <;> rfl
    · rfl

theorem opened_inside {p : Progress} (h : p.path ≠ []) (name : String) (attributes : List Char) :
    ∃ q, p.opened name attributes = some q ∧ q.path = p.path ++ [name] := by
  unfold opened
  split
  · next hp => exact absurd hp h
  all_goals exact ⟨_, rfl, rfl⟩

theorem run_inside {es : List Xml.Event} {rs : List Root} (h : Forest es rs) {p : Progress}
    (hp : p.path ≠ []) : ∃ q, run p es = some q ∧ q.path = p.path := by
  induction h generalizing p with
  | nil => exact ⟨p, rfl, rfl⟩
  | declaration version encoding rest ih => exact ih hp
  | text content rest ih => exact ih hp
  | empty name attributes rest ih =>
    have hstep : p.step (.empty name attributes) = some p := if_neg fun h => hp h.1
    rw [run, hstep]
    exact ih hp
  | element name attributes content rest ihcontent ihrest =>
    obtain ⟨p₁, hopened, hpath₁⟩ := opened_inside hp name attributes
    obtain ⟨p₂, hinner, hpath₂⟩ := ihcontent (p := p₁) (by simp [hpath₁])
    have hpath₃ : p₂.closed.path = p.path := by
      rw [closed_path, hpath₂, hpath₁, List.dropLast_concat]
    obtain ⟨q, hrest, hpath⟩ := ihrest (p := p₂.closed) (hpath₃ ▸ hp)
    refine ⟨q, ?_, hpath.trans hpath₃⟩
    rw [run, step, hopened, Option.bind_some, run_append, hinner, Option.bind_some, run, step,
      Option.bind_some, hrest]

theorem opened_package {p : Progress} (h : p.path = []) (attributes : List Char) :
    p.opened packageName attributes = (xmlns? attributes).map fun v =>
      { p with manifest := { p.manifest with xmlns := v }, path := [packageName], text := "" } := by
  unfold opened packageName
  rw [h]
  cases xmlns? attributes with
  | none => rfl
  | some v => rfl

theorem opened_outside {p : Progress} {name : String} (hpath : p.path.head? ≠ some packageName)
    (hname : p.path = [] → name ≠ packageName) (attributes : List Char) :
    p.opened name attributes = some { p with path := p.path ++ [name], text := "" } := by
  unfold opened
  split
  · next hp => exact absurd rfl (hname hp)
  · next hp => exact absurd (by rw [hp]; rfl) hpath
  · next hp => exact absurd (by rw [hp]; rfl) hpath
  · next hp => exact absurd (by rw [hp]; rfl) hpath
  · next hp => exact absurd (by rw [hp]; rfl) hpath
  · rfl

theorem opened_root {p : Progress} (h : p.path = []) (name : String) (attributes : List Char) :
    (Readable ⟨name, attributes⟩ → ∃ q, p.opened name attributes = some q) ∧
      ∀ q, p.opened name attributes = some q →
        Readable ⟨name, attributes⟩ ∧ q.path = [name] := by
  by_cases hname : name = packageName
  · subst hname
    rw [opened_package h]
    constructor
    · intro hread
      obtain ⟨v, hv⟩ := Option.isSome_iff_exists.1 (hread rfl)
      exact ⟨_, by rw [hv]; rfl⟩
    · intro q hq
      obtain ⟨v, hv, rfl⟩ := Option.map_eq_some_iff.1 hq
      exact ⟨fun _ => by rw [hv]; rfl, rfl⟩
  · have hopened := opened_outside (p := p) (by simp [h]) (fun _ => hname) attributes
    rw [hopened]
    refine ⟨fun _ => ⟨_, rfl⟩, ?_⟩
    rintro q ⟨⟩
    exact ⟨fun e => absurd e hname, by simp [h]⟩

theorem step_empty_root {p : Progress} (h : p.path = []) (name : String)
    (attributes : List Char) :
    (Readable ⟨name, attributes⟩ → ∃ q, p.step (.empty name attributes) = some q) ∧
      ∀ q, p.step (.empty name attributes) = some q →
        Readable ⟨name, attributes⟩ ∧ q.path = [] := by
  by_cases hname : name = packageName
  · subst hname
    have hstep : p.step (.empty packageName attributes) = (xmlns? attributes).map fun v =>
        { p with manifest := { p.manifest with xmlns := v } } := if_pos ⟨h, rfl⟩
    rw [hstep]
    constructor
    · intro hread
      obtain ⟨v, hv⟩ := Option.isSome_iff_exists.1 (hread rfl)
      exact ⟨_, by rw [hv]; rfl⟩
    · intro q hq
      obtain ⟨v, hv, rfl⟩ := Option.map_eq_some_iff.1 hq
      exact ⟨fun _ => by rw [hv]; rfl, h⟩
  · have hstep : p.step (.empty name attributes) = some p := if_neg fun e => hname e.2
    rw [hstep]
    refine ⟨fun _ => ⟨p, rfl⟩, ?_⟩
    rintro q ⟨⟩
    exact ⟨fun e => absurd e hname, h⟩

/-- Whole elements are read exactly if every package among the roots has a
namespace that can be read. -/
theorem run_roots {es : List Xml.Event} {rs : List Root} (h : Forest es rs) {p : Progress}
    (hp : p.path = []) :
    ((∀ r ∈ rs, Readable r) → ∃ q, run p es = some q) ∧
      ∀ q, run p es = some q → (∀ r ∈ rs, Readable r) ∧ q.path = [] := by
  induction h generalizing p with
  | nil => exact ⟨fun _ => ⟨p, rfl⟩, by rintro q ⟨⟩; exact ⟨by simp, hp⟩⟩
  | declaration version encoding rest ih => exact ih hp
  | text content rest ih => exact ih hp
  | empty name attributes rest ih =>
    obtain ⟨hsome, hroot⟩ := step_empty_root hp name attributes
    constructor
    · intro hread
      rw [List.forall_mem_cons] at hread
      obtain ⟨p₁, hstep⟩ := hsome hread.1
      obtain ⟨q, hq⟩ := (ih (hroot p₁ hstep).2).1 hread.2
      exact ⟨q, by rw [run, hstep, Option.bind_some, hq]⟩
    · intro q hq
      obtain ⟨p₁, hstep, hrest⟩ := Option.bind_eq_some_iff.1 hq
      obtain ⟨hread, hpath⟩ := hroot p₁ hstep
      obtain ⟨hreads, hend⟩ := (ih hpath).2 q hrest
      exact ⟨List.forall_mem_cons.2 ⟨hread, hreads⟩, hend⟩
  | @element name attributes inner es inside rs content rest _ ih =>
    obtain ⟨hsome, hroot⟩ := opened_root hp name attributes
    -- once the element is open its content is read, and its end leads back to the roots
    have hclosed (p₁ : Progress) (hopened : p.opened name attributes = some p₁) :
        ∃ p₃, p₃.path = [] ∧
          run p (.start name attributes :: (inner ++ .finish :: es)) = run p₃ es := by
      have hpath₁ := (hroot p₁ hopened).2
      obtain ⟨p₂, hinner, hpath₂⟩ := run_inside content (p := p₁) (by simp [hpath₁])
      refine ⟨p₂.closed, by rw [closed_path, hpath₂, hpath₁]; rfl, ?_⟩
      rw [run, step, hopened, Option.bind_some, run_append, hinner, Option.bind_some, run, step,
        Option.bind_some]
    constructor
    · intro hread
      rw [List.forall_mem_cons] at hread
      obtain ⟨p₁, hopened⟩ := hsome hread.1
      obtain ⟨p₃, hpath₃, hrun⟩ := hclosed p₁ hopened
      obtain ⟨q, hq⟩ := (ih hpath₃).1 hread.2
      exact ⟨q, hrun.trans hq⟩
    · intro q hq
      obtain ⟨p₁, hopened, -⟩ := Option.bind_eq_some_iff.1 hq
      obtain ⟨p₃, hpath₃, hrun⟩ := hclosed p₁ hopened
      obtain ⟨hreads, hend⟩ := (ih hpath₃).2 q (hrun ▸ hq)
      exact ⟨List.forall_mem_cons.2 ⟨(hroot p₁ hopened).1, hreads⟩, hend⟩

theorem opened_path {p q : Progress} {name : String} {attributes : List Char}
    (h : p.opened name attributes = some q) : q.path = p.path ++ [name] := by
  by_cases hp : p.path = []
  · rw [((opened_root hp name attributes).2 q h).2, hp]
    rfl
  · obtain ⟨q', hq, hpath⟩ := opened_inside hp name attributes
    rwa [← Option.some.inj (h.symm.trans hq)] at hpath

theorem step_empty_path {p q : Progress} {name : String} {attributes : List Char}
    (h : p.step (.empty name attributes) = some q) : q.path = p.path := by
  by_cases hp : p.path = []
  · rw [((step_empty_root hp name attributes).2 q h).2, hp]
  · have hstep : p.step (.empty name attributes) = some p := if_neg fun e => hp e.1
    cases hstep.symm.trans h
    rfl

/-- The path of the reader has one name for every element that is open. -/
theorem length_path_run {es : List Xml.Event} {p q : Progress} {n : Nat}
    (hrun : p.run es = some q) (hdepth : depth p.path.length es = some n) :
    q.path.length = n := by
  induction es generalizing p with
  | nil =>
    cases hrun
    exact Option.some.inj hdepth
  | cons e es ih =>
    obtain ⟨p₁, hstep, hrest⟩ := Option.bind_eq_some_iff.1 hrun
    apply ih hrest
    cases e with
    | declaration version encoding =>
      cases hstep
      exact hdepth
    | text content =>
      cases hstep
      exact hdepth
    | empty name attributes =>
      rw [step_empty_path hstep]
      exact hdepth
    | start name attributes =>
      rw [opened_path hstep, List.length_append]
      exact hdepth
    | finish =>
      cases hstep
      rw [closed_path, List.length_dropLast]
      cases hlength : p.path.length with
      | zero =>
        rw [hlength] at hdepth
        cases hdepth
      | succ k =>
        rw [hlength] at hdepth
        exact hdepth

structure Outside (p : Progress) : Prop where
  path : p.path.head? ≠ some packageName
  entry : p.entry = none
  awaited : p.awaited = none

structure Unsaid (p q : Progress) : Prop where
  xmlns : q.manifest.xmlns = p.manifest.xmlns
  version : q.manifest.version = p.manifest.version
  types : q.manifest.types = p.manifest.types

theorem Unsaid.refl (p : Progress) : Unsaid p p := ⟨rfl, rfl, rfl⟩

theorem Unsaid.trans {p q r : Progress} (h₁ : Unsaid p q) (h₂ : Unsaid q r) : Unsaid p r :=
  ⟨h₂.xmlns.trans h₁.xmlns, h₂.version.trans h₁.version, h₂.types.trans h₁.types⟩

theorem Outside.closed {p : Progress} (h : p.Outside) :
    p.closed = { p with path := p.path.dropLast } := by
  unfold Progress.closed
  simp only [h.awaited, h.entry]
  split <;> rfl

theorem run_outside {es : List Xml.Event} {rs : List Root} (h : Forest es rs) {p : Progress}
    (hp : p.Outside) (hroots : p.path = [] → ∀ r ∈ rs, r.name ≠ packageName) :
    ∃ q, run p es = some q ∧ q.Outside ∧ q.path = p.path ∧ Unsaid p q := by
  induction h generalizing p with
  | nil => exact ⟨p, rfl, hp, rfl, .refl p⟩
  | declaration version encoding rest ih =>
    obtain ⟨q, hq, houtside, hpath, hunsaid⟩ := ih (p := { p with manifest :=
      { p.manifest with
        xmlVersion := some version, encoding := encoding <|> p.manifest.encoding } })
      ⟨hp.path, hp.entry, hp.awaited⟩ hroots
    exact ⟨q, hq, houtside, hpath, hunsaid.xmlns, hunsaid.version, hunsaid.types⟩
  | text content rest ih =>
    obtain ⟨q, hq, houtside, hpath, hunsaid⟩ := ih (p := { p with text := p.text ++ content })
      ⟨hp.path, hp.entry, hp.awaited⟩ hroots
    exact ⟨q, hq, houtside, hpath, hunsaid.xmlns, hunsaid.version, hunsaid.types⟩
  | empty name attributes rest ih =>
    have hstep : p.step (.empty name attributes) = some p :=
      if_neg fun e => hroots e.1 _ List.mem_cons_self e.2
    rw [run, hstep]
    exact ih hp fun e r hr => hroots e r (List.mem_cons_of_mem _ hr)
  | @element name attributes inner es inside rs content rest ihcontent ihrest =>
    have hname (e : p.path = []) : name ≠ packageName := hroots e _ List.mem_cons_self
    have hopened := opened_outside hp.path hname attributes
    have hhead : (p.path ++ [name]).head? ≠ some packageName := by
      cases hpath : p.path with
      | nil => simpa using hname hpath
      | cons a path =>
        have hp' := hp.path
        rw [hpath] at hp'
        simpa using hp'
    obtain ⟨p₂, hinner, houtside₂, hpath₂, hunsaid₂⟩ :=
      ihcontent (p := { p with path := p.path ++ [name], text := "" })
        ⟨hhead, hp.entry, hp.awaited⟩ (by simp)
    have hpath₃ : p₂.path.dropLast = p.path := by
      rw [hpath₂, List.dropLast_concat]
    obtain ⟨q, hq, houtside, hpath, hunsaid⟩ :=
      ihrest (p := { p₂ with path := p₂.path.dropLast })
        ⟨by rw [hpath₃]; exact hp.path, houtside₂.entry, houtside₂.awaited⟩
        fun e r hr => hroots (hpath₃ ▸ e) r (List.mem_cons_of_mem _ hr)
    refine ⟨q, ?_, houtside, hpath.trans hpath₃, Unsaid.trans ⟨hunsaid₂.xmlns, hunsaid₂.version,
      hunsaid₂.types⟩ ⟨hunsaid.xmlns, hunsaid.version, hunsaid.types⟩⟩
    rw [run, step, hopened, Option.bind_some, run_append, hinner, Option.bind_some, run, step,
      Option.bind_some, houtside₂.closed, hq]

end Progress

def Rooted (text : String) (roots : List Root) : Prop :=
  ∃ events, Xml.Event.ofText? text.toList = some events ∧ Forest events roots

theorem parse_ok_iff_readText {text label : String} {m : Manifest} :
    parse text label = .ok m ↔ readText text.toList = .ok m := by
  unfold parse
  cases readText text.toList with
  | ok m' => simp
  | error problem => simp

theorem readText_ok {cs : List Char} {m : Manifest} (h : readText cs = .ok m) :
    ∃ events p, Xml.Event.ofText? cs = some events ∧ Progress.run .start events = some p ∧
      p.path = [] ∧ p.manifest = m := by
  unfold readText at h
  cases hevents : Xml.Event.ofText? cs with
  | none =>
    rw [hevents] at h
    cases h
  | some events =>
    simp only [hevents, ofEvents] at h
    cases hrun : Progress.run .start events with
    | none =>
      rw [hrun] at h
      cases h
    | some p =>
      simp only [hrun] at h
      split at h
      · next hpath =>
        cases h
        exact ⟨events, p, rfl, hrun, List.isEmpty_iff.1 hpath, rfl⟩
      · cases h

theorem rooted_of_readText {cs : List Char} {m : Manifest} (h : readText cs = .ok m) :
    ∃ events p roots, Xml.Event.ofText? cs = some events ∧ Progress.run .start events = some p ∧
      Forest events roots ∧ p.manifest = m := by
  obtain ⟨events, p, hevents, hrun, hpath, hm⟩ := readText_ok h
  obtain ⟨n, hn⟩ := depth_ofText hevents
  have hzero : n = 0 := by
    rw [← Progress.length_path_run hrun hn, hpath]
    rfl
  obtain ⟨roots, hroots⟩ := forest_of_depth (hzero ▸ hn)
  exact ⟨events, p, roots, hevents, hrun, hroots, hm⟩

/-- A text is read as a manifest exactly if all its elements are closed and the
namespace of each package among its roots can be read; any other is refused with
one code. Nothing is asked of the roots beyond that. Where none of them is a
package the manifest says nothing, and compared with it every component of
another manifest is deleted, or added. -/
theorem parse_accepts (text label : String) :
    ((∃ m, parse text label = .ok m) ↔ ∃ roots, Rooted text roots ∧ ∀ r ∈ roots, Readable r) ∧
      (∀ error, parse text label = .error error → error.code = .manifestInvalidXml) ∧
      ∀ m roots, parse text label = .ok m → Rooted text roots →
        (∀ r ∈ roots, r.name ≠ packageName) →
          m.xmlns = none ∧ m.version = none ∧ m.types = [] ∧
            ∀ (other : Manifest) (type member : String),
              (ChangeSet.changes other m).deleted.countOf type member =
                  other.occurrences type member ∧
                (ChangeSet.changes m other).added.countOf type member =
                  other.occurrences type member := by
  refine ⟨⟨?_, ?_⟩, ?_, ?_⟩
  · rintro ⟨m, hm⟩
    obtain ⟨events, p, roots, hevents, hrun, hforest, -⟩ :=
      rooted_of_readText (parse_ok_iff_readText.1 hm)
    have hread := ((Progress.run_roots hforest rfl).2 p hrun).1
    exact ⟨roots, ⟨events, hevents, hforest⟩, hread⟩
  · rintro ⟨roots, ⟨events, hevents, hforest⟩, hread⟩
    obtain ⟨p, hrun⟩ := (Progress.run_roots hforest (p := .start) rfl).1 hread
    have hpath := ((Progress.run_roots hforest rfl).2 p hrun).2
    refine ⟨p.manifest, parse_ok_iff_readText.2 ?_⟩
    simp [readText, hevents, ofEvents, hrun, hpath]
  · intro error herror
    unfold parse at herror
    split at herror
    · cases herror
    · cases herror
      rfl
  · rintro m roots hm ⟨events, hevents, hforest⟩ hforeign
    obtain ⟨events', p, -, hevents', hrun, -, rfl⟩ :=
      rooted_of_readText (parse_ok_iff_readText.1 hm)
    obtain rfl : events' = events := Option.some.inj (hevents'.symm.trans hevents)
    obtain ⟨q, hq, -, -, hunsaid⟩ :=
      Progress.run_outside hforest (p := .start) ⟨nofun, rfl, rfl⟩ fun _ => hforeign
    obtain rfl : p = q := Option.some.inj (hrun.symm.trans hq)
    have hnothing (type member : String) : p.manifest.occurrences type member = 0 := by
      rw [occurrences, hunsaid.types]
      rfl
    refine ⟨hunsaid.xmlns, hunsaid.version, hunsaid.types, ?_⟩
    intro other type member
    rw [(ChangeSet.changes_counts other p.manifest type member).2,
      (ChangeSet.changes_counts p.manifest other type member).1, hnothing, Nat.sub_zero]
    exact ⟨rfl, rfl⟩

/-- Nothing at all is a manifest without components. -/
example : (parse "" "package.xml").toOption = some .empty := by decide +kernel

end OrgPipeline.Manifest
