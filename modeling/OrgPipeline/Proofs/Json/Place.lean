import OrgPipeline.Proofs.Decimal.Digits
import OrgPipeline.Proofs.Json.Members

/-!
# Places in a value

A path goes down member by member and element by element, and it leads to what
stands there or is lost on the way. Every place inside a value has a path to it: names
as they are, indices in decimal.
-/

set_option autoImplicit false

namespace OrgPipeline.Json

/-- A value as memory can hold it: the names in an object differ, and an array is not
longer than its indices reach. -/
inductive WellFormed : Json → Prop
  | null : WellFormed .null
  | bool (b : Bool) : WellFormed (.bool b)
  | num (n : Number) : WellFormed (.num n)
  | str (s : String) : WellFormed (.str s)
  | arr {items : List Json} (short : items.length ≤ indexBound)
    (items_wellFormed : ∀ v ∈ items, WellFormed v) : WellFormed (.arr items)
  | obj {members : Members} (distinct : (members.map Prod.fst).Nodup)
    (members_wellFormed : ∀ m ∈ members, WellFormed m.2) : WellFormed (.obj members)

theorem wellFormed_object {members : Members} (h : ∀ m ∈ members, WellFormed m.2) :
    (object members).WellFormed := by
  refine .obj (ordered_foldl_putMember members List.Pairwise.nil).nodup fun m hm => ?_
  rcases mem_foldl_putMember hm with hm | hm
  · cases hm
  · exact h m hm

def Denotes (segment : String) (i : Nat) : Prop :=
  ∃ digits, (segment.toList = digits ∨ segment.toList = '+' :: digits) ∧ digits ≠ [] ∧
    digits.all Decimal.isDigit = true ∧ Decimal.valueOf digits = i

theorem digitsIndex?_eq_some_iff {digits : List Char} {i : Nat} :
    digitsIndex? digits = some i ↔
      (digits ≠ [] ∧ digits.all Decimal.isDigit = true ∧ Decimal.valueOf digits = i) ∧
        i < indexBound := by
  unfold digitsIndex?
  by_cases hdigits : digits ≠ [] ∧ digits.all Decimal.isDigit = true
  · rw [if_neg (by simpa using hdigits)]
    dsimp only
    by_cases hbound : Decimal.valueOf digits < indexBound
    · rw [if_pos hbound, Option.some.injEq]
      exact ⟨fun h => ⟨⟨hdigits.1, hdigits.2, h⟩, h ▸ hbound⟩, fun h => h.1.2.2⟩
    · rw [if_neg hbound]
      constructor
      · rintro ⟨⟩
      · rintro ⟨⟨-, -, rfl⟩, h⟩
        exact absurd h hbound
  · rw [if_pos (by simpa [or_iff_not_imp_left] using hdigits)]
    constructor
    · rintro ⟨⟩
    · rintro ⟨⟨hne, hall, -⟩, -⟩
      exact absurd ⟨hne, hall⟩ hdigits

theorem index?_eq_some_iff {segment : String} {i : Nat} :
    index? segment = some i ↔ Denotes segment i ∧ i < indexBound := by
  have hplus : Decimal.isDigit '+' = false := by decide
  unfold index? Denotes
  split
  · next digits hsegment =>
    rw [digitsIndex?_eq_some_iff, hsegment]
    apply and_congr_left'
    constructor
    · intro h
      exact ⟨digits, Or.inr rfl, h⟩
    · rintro ⟨other, rfl | hother, hne, hall, hvalue⟩
      · -- a sign is no digit
        simp [hplus] at hall
      · cases hother
        exact ⟨hne, hall, hvalue⟩
  · next hsegment =>
    rw [digitsIndex?_eq_some_iff]
    apply and_congr_left'
    constructor
    · intro h
      exact ⟨_, Or.inl rfl, h⟩
    · rintro ⟨digits, rfl | hdigits, h⟩
      · exact h
      · exact absurd hdigits (hsegment digits)

theorem denotes_toString (i : Nat) : Denotes (toString i) i :=
  ⟨Decimal.digitsOf i, Or.inl Nat.toList_repr, Decimal.digitsOf_ne_nil i,
    Decimal.all_isDigit_digitsOf i, Decimal.valueOf_digitsOf i⟩

/-- What a segment leads to from a value: the member with exactly this name, or the
element with this index. -/
inductive Child : Json → String → Json → Prop
  | member {members : Members} {name : String} {v : Json} (h : (name, v) ∈ members) :
    Child (.obj members) name v
  | element {items : List Json} {segment : String} {i : Nat} {v : Json}
    (hsegment : Denotes segment i) (h : items[i]? = some v) : Child (.arr items) segment v

inductive Follows : Json → List String → Json → Prop
  | here (v : Json) : Follows v [] v
  | down {v w u : Json} {segment : String} {path : List String} (hchild : Child v segment w)
    (hrest : Follows w path u) : Follows v (segment :: path) u

/-- The path leads to no boolean, number or text: it ends elsewhere, or there is nothing
where it goes on, as in an object without such a member, an array without such an
element, and in anything that is neither. -/
inductive Lost : Json → List String → Prop
  | null : Lost .null []
  | arr (items : List Json) : Lost (.arr items) []
  | obj (members : Members) : Lost (.obj members) []
  | missing {v : Json} {segment : String} {path : List String} (h : ∀ w, ¬ Child v segment w) :
    Lost v (segment :: path)
  | down {v w : Json} {segment : String} {path : List String} (hchild : Child v segment w)
    (hrest : Lost w path) : Lost v (segment :: path)

theorem WellFormed.child?_eq_some_iff {v : Json} (h : v.WellFormed) {segment : String} {w : Json} :
    child? v segment = some w ↔ Child v segment w := by
  cases h with
  | obj distinct _ =>
    constructor
    · intro hlookup
      exact .member ((lookup_eq_some_iff distinct).1 hlookup)
    · rintro ⟨hmember⟩
      exact (lookup_eq_some_iff distinct).2 hmember
  | arr short _ =>
    constructor
    · intro hchild
      obtain ⟨i, hi, hitem⟩ := Option.bind_eq_some_iff.1 hchild
      exact .element (index?_eq_some_iff.1 hi).1 hitem
    · rintro (_ | ⟨hsegment, hitem⟩)
      have hlt : _ < indexBound := Nat.lt_of_lt_of_le (List.getElem?_eq_some_iff.1 hitem).1 short
      exact Option.bind_eq_some_iff.2 ⟨_, index?_eq_some_iff.2 ⟨hsegment, hlt⟩, hitem⟩
  | _ => exact ⟨nofun, nofun⟩

theorem WellFormed.child {v w : Json} {segment : String} (h : v.WellFormed)
    (hchild : Child v segment w) : w.WellFormed := by
  cases hchild with
  | member hmember =>
    cases h with
    | obj _ hmembers => exact hmembers _ hmember
  | element _ hitem =>
    cases h with
    | arr _ hitems => exact hitems _ (List.mem_of_getElem? hitem)

theorem WellFormed.descend_eq_some_iff {v : Json} (h : v.WellFormed) {path : List String}
    {w : Json} : v.descend path = some w ↔ Follows v path w := by
  induction path generalizing v with
  | nil =>
    rw [descend, Option.some.injEq]
    constructor
    · rintro rfl
      exact .here v
    · rintro ⟨⟩
      rfl
  | cons segment path ih =>
    rw [descend, Option.bind_eq_some_iff]
    constructor
    · rintro ⟨u, hchild, hrest⟩
      have hchild := h.child?_eq_some_iff.1 hchild
      exact .down hchild ((ih (h.child hchild)).1 hrest)
    · rintro (_ | ⟨hchild, hrest⟩)
      exact ⟨_, h.child?_eq_some_iff.2 hchild, (ih (h.child hchild)).2 hrest⟩

/-- Nothing is found exactly if the path is lost. -/
theorem WellFormed.scalar_eq_none_iff {v : Json} (h : v.WellFormed) {path : List String} :
    (v.descend path).bind scalar? = none ↔ Lost v path := by
  induction path generalizing v with
  | nil =>
    change v.scalar? = none ↔ _
    constructor
    · cases v with
      | null => exact fun _ => .null
      | arr items => exact fun _ => .arr items
      | obj members => exact fun _ => .obj members
      | _ => nofun
    · rintro ⟨⟩ <;> rfl
  | cons segment path ih =>
    rw [descend]
    cases hstep : child? v segment with
    | none =>
      refine ⟨fun _ => .missing fun w hchild => ?_, fun _ => rfl⟩
      rw [h.child?_eq_some_iff.2 hchild] at hstep
      cases hstep
    | some w =>
      have hchild := h.child?_eq_some_iff.1 hstep
      rw [Option.bind_some, ih (h.child hchild)]
      constructor
      · exact .down hchild
      · rintro (_ | _ | _ | hmissing | ⟨hother, hrest⟩)
        · exact absurd hchild (hmissing w)
        · rw [h.child?_eq_some_iff.2 hother] at hstep
          cases hstep
          exact hrest

inductive Key where
  | member (name : String)
  | element (index : Nat)

def Key.text : Key → String
  | member name => name
  | element index => toString index

inductive Within : Json → List Key → Json → Prop
  | here (v : Json) : Within v [] v
  | member {members : Members} {name : String} {v w : Json} {place : List Key}
    (h : (name, v) ∈ members) (hrest : Within v place w) :
    Within (.obj members) (.member name :: place) w
  | element {items : List Json} {i : Nat} {v w : Json} {place : List Key}
    (h : items[i]? = some v) (hrest : Within v place w) :
    Within (.arr items) (.element i :: place) w

theorem Within.eq_of_nil {v w : Json} (h : Within v [] w) : v = w := by
  cases h
  rfl

theorem Within.follows {v w : Json} {place : List Key} (h : Within v place w) :
    Follows v (place.map Key.text) w := by
  induction h with
  | here v => exact .here v
  | member h hrest ih => exact .down (.member h) ih
  | element h hrest ih => exact .down (.element (denotes_toString _) h) ih

end OrgPipeline.Json
