import OrgPipeline.Json.Outline
import OrgPipeline.Proofs.Json.Numeral
import OrgPipeline.Proofs.Json.Quoted

/-!
# The grammar of JSON

What a text must look like to stand for a value, with arrays and objects inside one
another to a given depth. The grammar knows nothing of the steps of the reader; only what
a number amounts to, and whether it is too large, is left to the conversion of numbers.
The reader takes exactly the texts of its own depth, and it takes a null, a boolean, an
integer of 64 bits and a string in the form in which they are printed.
-/

set_option autoImplicit false

namespace OrgPipeline.Json

/-- A value that is neither an array nor an object, at the start of a text with blanks
ahead of it, and the rest. -/
inductive Scalar : List Char → Json → List Char → Prop
  | null {cs rest : List Char} (h : skipSpace cs = "null".toList ++ rest) : Scalar cs .null rest
  | bool {cs rest : List Char} (b : Bool)
    (h : skipSpace cs = (if b then "true" else "false").toList ++ rest) : Scalar cs (.bool b) rest
  | num {cs rest : List Char} {n : Number} (form : Numeral (skipSpace cs) rest)
    (value : number? (skipSpace cs) = some (n, rest)) : Scalar cs (.num n) rest
  | str {cs inside rest : List Char} {s : String} (opening : skipSpace cs = '"' :: inside)
    (text : Quoted inside s.toList rest) : Scalar cs (.str s) rest

section
variable {α : Type} (part : List Char → α → List Char → Prop)

inductive Listing (closing : Char) : List Char → List α → List Char → Prop
  | last {cs mid rest : List Char} {a : α} (hpart : part cs a mid)
    (hclose : skipSpace mid = closing :: rest) : Listing closing cs [a] rest
  | more {cs mid others rest : List Char} {a : α} {as : List α} (hpart : part cs a mid)
    (comma : skipSpace mid = ',' :: others) (h : Listing closing others as rest) :
    Listing closing cs (a :: as) rest

inductive Enclosed (opening closing : Char) : List Char → List α → List Char → Prop
  | empty {cs inside rest : List Char} (hopen : skipSpace cs = opening :: inside)
    (hclose : skipSpace inside = closing :: rest) : Enclosed opening closing cs [] rest
  | parts {cs inside rest : List Char} {as : List α} (hopen : skipSpace cs = opening :: inside)
    (h : Listing part closing (skipSpace inside) as rest) : Enclosed opening closing cs as rest

end

section
variable (value : List Char → Json → List Char → Prop)

inductive Member : List Char → String × Json → List Char → Prop
  | mk {cs inside mid after rest : List Char} {name : String} {v : Json}
    (opening : skipSpace cs = '"' :: inside) (hname : Quoted inside name.toList mid)
    (colon : skipSpace mid = ':' :: after) (hv : value after v rest) : Member cs (name, v) rest

inductive Compound : List Char → Json → List Char → Prop
  | scalar {cs rest : List Char} {v : Json} (h : Scalar cs v rest) : Compound cs v rest
  | arr {cs rest : List Char} {items : List Json} (h : Enclosed value '[' ']' cs items rest) :
    Compound cs (.arr items) rest
  | obj {cs rest : List Char} {members : Members}
    (h : Enclosed (Member value) '\x7b' '\x7d' cs members rest) :
    Compound cs (object members) rest

end

/-- A value at the start of a text, and the rest; arrays and objects are inside one another
to this depth at most. -/
def Spells : Nat → List Char → Json → List Char → Prop
  | 0 => Scalar
  | depth + 1 => Compound (Spells depth)

def IsValue (depth : Nat) (text : String) (v : Json) : Prop :=
  ∃ rest, Spells depth text.toList v rest ∧ skipSpace rest = []

/-- The text consists of an object with these members, in the order in which they are
written, with blanks around it. The depth counts the object itself. -/
def IsObject : Nat → String → Members → Prop
  | 0, _, _ => False
  | depth + 1, text, members =>
    ∃ rest, Enclosed (Member (Spells depth)) '\x7b' '\x7d' text.toList members rest ∧
      skipSpace rest = []

theorem spells_scalar {cs rest : List Char} {v : Json} (h : Scalar cs v rest) (depth : Nat) :
    Spells depth cs v rest := by
  cases depth with
  | zero => exact h
  | succ depth => exact .scalar h

structure Sound (fuel : Nat) : Prop where
  value : ∀ depth cs v rest, value? fuel depth cs = some (v, rest) → Spells depth cs v rest
  items : ∀ depth cs vs rest, items? fuel depth cs = some (vs, rest) →
    Listing (Spells depth) ']' cs vs rest
  members : ∀ depth cs ms rest, members? fuel depth cs = some (ms, rest) →
    Listing (Member (Spells depth)) '\x7d' cs ms rest

section
variable {fuel depth : Nat} {cs rest : List Char}

theorem Sound.value_succ (hsound : Sound fuel) {v : Json}
    (h : value? (fuel + 1) depth cs = some (v, rest)) : Spells depth cs v rest := by
  rw [value?] at h
  split at h
  · cases h
  · next hcs =>
    obtain ⟨⟨text, tail⟩, htext, heq⟩ := Option.map_eq_some_iff.1 h
    cases heq
    obtain ⟨inside, hinside, hquoted⟩ := string?_eq_some_iff.1 htext
    exact spells_scalar (.str (hcs.trans hinside) hquoted) depth
  · next hcs =>
    split at h
    · cases h
    · split at h
      · next hclose =>
        cases h
        exact .arr (.empty hcs hclose)
      · obtain ⟨⟨vs, tail⟩, hvs, heq⟩ := Option.map_eq_some_iff.1 h
        cases heq
        exact .arr (.parts hcs (hsound.items _ _ vs _ hvs))
  · next hcs =>
    split at h
    · cases h
    · split at h
      · next hclose =>
        cases h
        exact .obj (.empty hcs hclose)
      · obtain ⟨⟨ms, tail⟩, hms, heq⟩ := Option.map_eq_some_iff.1 h
        cases heq
        exact .obj (.parts hcs (hsound.members _ _ ms _ hms))
  · next hcs =>
    obtain ⟨hword, rfl⟩ := literal?_eq h
    exact spells_scalar (.bool true (by rw [hcs, hword]; rfl)) depth
  · next hcs =>
    obtain ⟨hword, rfl⟩ := literal?_eq h
    exact spells_scalar (.bool false (by rw [hcs, hword]; rfl)) depth
  · next hcs =>
    obtain ⟨hword, rfl⟩ := literal?_eq h
    exact spells_scalar (.null (by rw [hcs, hword]; rfl)) depth
  · obtain ⟨⟨n, tail⟩, hn, heq⟩ := Option.map_eq_some_iff.1 h
    cases heq
    exact spells_scalar (.num (number?_form hn) hn) depth

theorem Sound.items_succ (hsound : Sound fuel) {vs : List Json}
    (h : items? (fuel + 1) depth cs = some (vs, rest)) :
    Listing (Spells depth) ']' cs vs rest := by
  rw [items?] at h
  obtain ⟨⟨v, tail⟩, hv, h⟩ := Option.bind_eq_some_iff.1 h
  have hhead := hsound.value depth cs v tail hv
  dsimp only at h
  split at h
  · next hcomma =>
    obtain ⟨⟨others, tail'⟩, hothers, h⟩ := Option.bind_eq_some_iff.1 h
    cases h
    exact .more hhead hcomma (hsound.items _ _ others tail' hothers)
  · next hclose =>
    cases h
    exact .last hhead hclose
  · cases h

theorem Sound.members_succ (hsound : Sound fuel) {ms : Members}
    (h : members? (fuel + 1) depth cs = some (ms, rest)) :
    Listing (Member (Spells depth)) '\x7d' cs ms rest := by
  rw [members?] at h
  obtain ⟨⟨name, tail⟩, hname, h⟩ := Option.bind_eq_some_iff.1 h
  obtain ⟨inside, hinside, hquoted⟩ := string?_eq_some_iff.1 hname
  dsimp only at h
  split at h
  · next hcolon =>
    obtain ⟨⟨v, tail'⟩, hv, h⟩ := Option.bind_eq_some_iff.1 h
    have hhead := Member.mk hinside hquoted hcolon (hsound.value depth _ v tail' hv)
    dsimp only at h
    split at h
    · next hcomma =>
      obtain ⟨⟨others, tail''⟩, hothers, h⟩ := Option.bind_eq_some_iff.1 h
      cases h
      exact .more hhead hcomma (hsound.members _ _ others tail'' hothers)
    · next hclose =>
      cases h
      exact .last hhead hclose
    · cases h
  · cases h

end

theorem sound (fuel : Nat) : Sound fuel := by
  induction fuel with
  | zero =>
    constructor
    · intro depth cs v rest h
      rw [value?] at h
      cases h
    · intro depth cs vs rest h
      rw [items?] at h
      cases h
    · intro depth cs ms rest h
      rw [members?] at h
      cases h
  | succ fuel ih =>
    constructor
    · intro depth cs v rest
      exact ih.value_succ
    · intro depth cs vs rest
      exact ih.items_succ
    · intro depth cs ms rest
      exact ih.members_succ

theorem length_skipSpace_le (cs : List Char) : (skipSpace cs).length ≤ cs.length :=
  (List.dropWhile_sublist isSpace).length_le

theorem length_lt_of_skipSpace {cs rest : List Char} {c : Char} (h : skipSpace cs = c :: rest) :
    rest.length < cs.length := by
  have hlength := length_skipSpace_le cs
  rw [h, List.length_cons] at hlength
  omega

def Shortens {α : Type} (part : List Char → α → List Char → Prop) : Prop :=
  ∀ cs a rest, part cs a rest → rest.length < cs.length

theorem Scalar.shortens : Shortens Scalar := by
  intro cs v rest h
  have hskipped := length_skipSpace_le cs
  cases h with
  | null h =>
    rw [h] at hskipped
    simp at hskipped
    omega
  | bool b h =>
    rw [h] at hskipped
    cases b <;> simp at hskipped <;> omega
  | num form value =>
    have hform := form.length_lt
    omega
  | str opening text =>
    have hopening := length_lt_of_skipSpace opening
    have htext := text.length_lt
    omega

section
variable {α : Type} {part : List Char → α → List Char → Prop} {opening closing : Char}

theorem Listing.shortens (hpart : Shortens part) : Shortens (Listing part closing) := by
  intro cs as rest h
  induction h with
  | last ha hclose =>
    have hfirst := hpart _ _ _ ha
    have hlast := length_lt_of_skipSpace hclose
    omega
  | more ha comma _ ih =>
    have hfirst := hpart _ _ _ ha
    have hcomma := length_lt_of_skipSpace comma
    omega

theorem Enclosed.shortens (hpart : Shortens part) : Shortens (Enclosed part opening closing) := by
  intro cs as rest h
  cases h with
  | empty hopen hclose =>
    have hfirst := length_lt_of_skipSpace hopen
    have hlast := length_lt_of_skipSpace hclose
    omega
  | @parts inside _ _ hopen h =>
    have hfirst := length_lt_of_skipSpace hopen
    have hskipped := length_skipSpace_le inside
    have hparts := Listing.shortens hpart _ _ _ h
    omega

end

theorem Member.shortens {value : List Char → Json → List Char → Prop} (hvalue : Shortens value) :
    Shortens (Member value) := by
  intro cs m rest h
  cases h with
  | mk opening hname colon hv =>
    have hopening := length_lt_of_skipSpace opening
    have hlength := hname.length_lt
    have hcolon := length_lt_of_skipSpace colon
    have hrest := hvalue _ _ _ hv
    omega

theorem spells_shortens (depth : Nat) : Shortens (Spells depth) := by
  induction depth with
  | zero => exact Scalar.shortens
  | succ depth ih =>
    intro cs v rest h
    cases h with
    | scalar h => exact Scalar.shortens _ _ _ h
    | arr h => exact Enclosed.shortens ih _ _ _ h
    | obj h => exact Enclosed.shortens (Member.shortens ih) _ _ _ h

/-- A number starts with a sign or a digit, and no other value does. -/
theorem Scalar.value? {cs rest : List Char} {v : Json} (h : Scalar cs v rest)
    (fuel depth : Nat) : Json.value? (fuel + 1) depth cs = some (v, rest) := by
  cases h with
  | null h =>
    rw [Json.value?, h]
    rfl
  | bool b h =>
    rw [Json.value?, h]
    cases b <;> rfl
  | num form value =>
    rw [Json.value?]
    split
    case h_8 =>
      rw [value]
      rfl
    all_goals
      next hcs =>
        rw [hcs] at value
        cases value
  | str opening text =>
    have hread := string?_eq_some_iff.2 ⟨_, rfl, text⟩
    rw [Json.value?, opening]
    exact congrArg (Option.map fun read => (Json.str read.1, read.2)) hread

theorem Enclosed.opened {α : Type} {part : List Char → α → List Char → Prop}
    {opening closing : Char} {cs rest : List Char} {as : List α}
    (h : Enclosed part opening closing cs as rest) :
    ∃ inside, skipSpace cs = opening :: inside := by
  cases h with
  | empty hopen hclose => exact ⟨_, hopen⟩
  | parts hopen h => exact ⟨_, hopen⟩

theorem not_spells_bracket {depth : Nat} {cs rest : List Char} {v : Json} :
    ¬ Spells depth (']' :: cs) v rest := by
  have hscalar : ¬ Scalar (']' :: cs) v rest := by
    intro h
    have hread := h.value? 0 0
    cases hread
  intro h
  cases depth with
  | zero => exact hscalar h
  | succ depth =>
    cases h with
    | scalar h => exact hscalar h
    | arr h =>
      obtain ⟨inside, hopen⟩ := h.opened
      cases hopen
    | obj h =>
      obtain ⟨inside, hopen⟩ := h.opened
      cases hopen

theorem not_member_brace {value : List Char → Json → List Char → Prop} {cs rest : List Char}
    {m : String × Json} : ¬ Member value ('\x7d' :: cs) m rest := by
  intro h
  cases h with
  | mk opening hname colon hv => cases opening

theorem Listing.head {α : Type} {part : List Char → α → List Char → Prop} {closing : Char}
    {cs rest : List Char} {as : List α} (h : Listing part closing cs as rest) :
    ∃ a mid, part cs a mid := by
  cases h with
  | last ha hclose => exact ⟨_, _, ha⟩
  | more ha comma h => exact ⟨_, _, ha⟩

def Complete (depth : Nat) : Prop :=
  ∀ cs v rest, Spells depth cs v rest →
    ∀ fuel, 2 * cs.length ≤ fuel → value? fuel depth cs = some (v, rest)

section
variable {depth : Nat}

theorem items?_of_listing (hvalue : Complete depth) {cs rest : List Char} {vs : List Json}
    (h : Listing (Spells depth) ']' cs vs rest) {fuel : Nat} (hfuel : 2 * cs.length < fuel) :
    items? fuel depth cs = some (vs, rest) := by
  induction h generalizing fuel with
  | last hv hclose =>
    obtain ⟨fuel, rfl⟩ : ∃ n, fuel = n + 1 := ⟨fuel - 1, by omega⟩
    rw [items?, hvalue _ _ _ hv fuel (by omega)]
    simp [hclose]
  | more hv comma _ ih =>
    obtain ⟨fuel, rfl⟩ : ∃ n, fuel = n + 1 := ⟨fuel - 1, by omega⟩
    have hfirst := spells_shortens depth _ _ _ hv
    have hcomma := length_lt_of_skipSpace comma
    rw [items?, hvalue _ _ _ hv fuel (by omega)]
    simp [comma, @ih fuel (by omega)]

theorem members?_of_listing (hvalue : Complete depth) {cs rest : List Char} {ms : Members}
    (h : Listing (Member (Spells depth)) '\x7d' cs ms rest) {fuel : Nat}
    (hfuel : 2 * cs.length < fuel) : members? fuel depth cs = some (ms, rest) := by
  induction h generalizing fuel with
  | last hm hclose =>
    obtain ⟨fuel, rfl⟩ : ∃ n, fuel = n + 1 := ⟨fuel - 1, by omega⟩
    have hfirst := Member.shortens (spells_shortens depth) _ _ _ hm
    cases hm with
    | mk opening hname colon hv =>
      have hopening := length_lt_of_skipSpace opening
      have hlength := hname.length_lt
      have hcolon := length_lt_of_skipSpace colon
      rw [members?, string?_eq_some_iff.2 ⟨_, opening, hname⟩]
      simp [colon, hvalue _ _ _ hv fuel (by omega), hclose]
  | more hm comma _ ih =>
    obtain ⟨fuel, rfl⟩ : ∃ n, fuel = n + 1 := ⟨fuel - 1, by omega⟩
    have hfirst := Member.shortens (spells_shortens depth) _ _ _ hm
    have hcomma := length_lt_of_skipSpace comma
    cases hm with
    | mk opening hname colon hv =>
      have hopening := length_lt_of_skipSpace opening
      have hlength := hname.length_lt
      have hcolon := length_lt_of_skipSpace colon
      rw [members?, string?_eq_some_iff.2 ⟨_, opening, hname⟩]
      simp [colon, hvalue _ _ _ hv fuel (by omega), comma, @ih fuel (by omega)]

end

theorem complete (depth : Nat) : Complete depth := by
  induction depth with
  | zero =>
    intro cs v rest h fuel hfuel
    have hlength := Scalar.shortens _ _ _ h
    obtain ⟨fuel, rfl⟩ : ∃ n, fuel = n + 1 := ⟨fuel - 1, by omega⟩
    exact h.value? fuel 0
  | succ depth ih =>
    intro cs v rest h fuel hfuel
    have hlength := spells_shortens (depth + 1) _ _ _ h
    obtain ⟨fuel, rfl⟩ : ∃ n, fuel = n + 1 := ⟨fuel - 1, by omega⟩
    cases h with
    | scalar h => exact h.value? fuel (depth + 1)
    | arr h =>
      cases h with
      | empty hopen hclose =>
        simp only [value?, hopen, hclose]
      | @parts inside _ _ hopen h =>
        have hfirst := length_lt_of_skipSpace hopen
        have hskipped := length_skipSpace_le inside
        simp only [value?, hopen]
        split
        · next hclose =>
          obtain ⟨v, mid, hv⟩ := h.head
          rw [hclose] at hv
          exact absurd hv not_spells_bracket
        · rw [items?_of_listing ih h (by omega)]
          rfl
    | obj h =>
      cases h with
      | empty hopen hclose =>
        simp only [value?, hopen, hclose]
        rfl
      | @parts inside _ _ hopen h =>
        have hfirst := length_lt_of_skipSpace hopen
        have hskipped := length_skipSpace_le inside
        simp only [value?, hopen]
        split
        · next hclose =>
          obtain ⟨m, mid, hm⟩ := h.head
          rw [hclose] at hm
          exact absurd hm not_member_brace
        · rw [members?_of_listing ih h (by omega)]
          rfl

theorem read_eq_some_iff {text : String} {v : Json} :
    read text = some v ↔ IsValue depthLimit text v := by
  constructor
  · intro h
    obtain ⟨⟨w, rest⟩, hw, h⟩ := Option.bind_eq_some_iff.1 h
    dsimp only at h
    split at h
    · next hend =>
      cases h
      exact ⟨rest, (sound _).value _ _ _ _ hw, List.isEmpty_iff.1 hend⟩
    · cases h
  · rintro ⟨rest, h, hend⟩
    have hsteps : 2 * text.toList.length ≤ stepsFor text.toList := Nat.le_add_right _ _
    rw [read, readList, complete _ _ _ _ h _ hsteps]
    simp [hend]

theorem listing_of_chosenMembers? {depth fuel : Nat} {cs rest : List Char} {ms : Members}
    (h : chosenMembers? (fun _ => true) depth fuel cs = some (ms, rest)) :
    Listing (Member (Spells depth)) '\x7d' cs ms rest := by
  induction fuel generalizing cs ms with
  | zero => cases h
  | succ fuel ih =>
    rw [chosenMembers?] at h
    obtain ⟨⟨name, tail⟩, hname, h⟩ := Option.bind_eq_some_iff.1 h
    obtain ⟨inside, hinside, hquoted⟩ := string?_eq_some_iff.1 hname
    dsimp only at h
    split at h
    · next hcolon =>
      obtain ⟨⟨member, tail'⟩, hmember, h⟩ := Option.bind_eq_some_iff.1 h
      obtain ⟨⟨v, tail''⟩, hv, heq⟩ := Option.map_eq_some_iff.1 hmember
      cases heq
      have hhead := Member.mk hinside hquoted hcolon ((sound _).value depth _ v tail'' hv)
      dsimp only at h
      split at h
      · next hcomma =>
        obtain ⟨⟨others, after⟩, hothers, h⟩ := Option.bind_eq_some_iff.1 h
        cases h
        exact .more hhead hcomma (ih hothers)
      · next hclose =>
        cases h
        exact .last hhead hclose
      · cases h
    · cases h

theorem chosenMembers?_of_listing {depth : Nat} {cs rest : List Char} {ms : Members}
    (h : Listing (Member (Spells depth)) '\x7d' cs ms rest) {fuel : Nat}
    (hfuel : cs.length < fuel) :
    chosenMembers? (fun _ => true) depth fuel cs = some (ms, rest) := by
  have hvalue {cs : List Char} {v : Json} {rest : List Char} (h : Spells depth cs v rest) :
      value? (stepsFor cs) depth cs = some (v, rest) :=
    complete depth cs v rest h _ (Nat.le_add_right _ _)
  induction h generalizing fuel with
  | last hm hclose =>
    obtain ⟨fuel, rfl⟩ : ∃ n, fuel = n + 1 := ⟨fuel - 1, by omega⟩
    cases hm with
    | mk opening hname colon hv =>
      rw [chosenMembers?, string?_eq_some_iff.2 ⟨_, opening, hname⟩]
      simp [colon, hvalue hv, hclose]
  | more hm comma _ ih =>
    obtain ⟨fuel, rfl⟩ : ∃ n, fuel = n + 1 := ⟨fuel - 1, by omega⟩
    have hfirst := Member.shortens (spells_shortens depth) _ _ _ hm
    have hcomma := length_lt_of_skipSpace comma
    cases hm with
    | mk opening hname colon hv =>
      rw [chosenMembers?, string?_eq_some_iff.2 ⟨_, opening, hname⟩]
      simp [colon, hvalue hv, comma, @ih fuel (by omega)]

/-- An object is read with all its members exactly if it is one. -/
theorem readMembers_eq_some_iff {text : String} {ms : Members} :
    readMembers (fun _ => true) text.toList = some ms ↔ IsObject depthLimit text ms := by
  change _ ↔ ∃ rest, Enclosed (Member (Spells (depthLimit - 1))) '\x7b' '\x7d' text.toList ms
    rest ∧ skipSpace rest = []
  constructor
  · intro h
    unfold readMembers at h
    split at h
    · next hopen =>
      split at h
      · next hclose =>
        dsimp only at h
        split at h
        · next hend =>
          cases h
          exact ⟨_, .empty hopen hclose, List.isEmpty_iff.1 hend⟩
        · cases h
      · dsimp only at h
        split at h
        · next hread =>
          split at h
          · next hend =>
            cases h
            exact ⟨_, .parts hopen (listing_of_chosenMembers? hread), List.isEmpty_iff.1 hend⟩
          · cases h
        · cases h
    · cases h
  · rintro ⟨rest, h, hend⟩
    cases h with
    | empty hopen hclose => simp [readMembers, hopen, hclose, hend]
    | @parts inside _ _ hopen h =>
      have hread := chosenMembers?_of_listing h (Nat.lt_succ_self _)
      have hnone : ∀ others, skipSpace inside ≠ '\x7d' :: others := by
        intro others hclose
        obtain ⟨m, mid, hm⟩ := h.head
        rw [hclose] at hm
        exact not_member_brace hm
      simp [readMembers, hopen, hread, hend]

def IsScalar : Json → Prop
  | .arr _ | .obj _ => False
  | _ => True

theorem isValue_zero_iff {text : String} {v : Json} :
    IsValue 0 text v ↔ read text = some v ∧ IsScalar v := by
  rw [read_eq_some_iff]
  constructor
  · rintro ⟨rest, h, hend⟩
    refine ⟨⟨rest, spells_scalar h _, hend⟩, ?_⟩
    cases (h : Scalar text.toList v rest) <;> trivial
  · rintro ⟨⟨rest, h, hend⟩, hv⟩
    refine ⟨rest, ?_, hend⟩
    change Compound (Spells (depthLimit - 1)) text.toList v rest at h
    cases h with
    | scalar h => exact h
    | arr h => exact hv.elim
    | obj h => exact hv.elim

theorem skipSpace_of_number? {cs rest : List Char} {n : Number} (h : number? cs = some (n, rest)) :
    skipSpace cs = cs := by
  cases cs with
  | nil => rfl
  | cons c cs =>
    apply List.dropWhile_cons_of_neg
    intro hspace
    simp only [isSpace, Bool.or_eq_true, beq_iff_eq] at hspace
    rcases hspace with ((rfl | rfl) | rfl) | rfl <;> cases h

theorem isValue_of_number? {text : String} {n : Number} (h : number? text.toList = some (n, [])) :
    IsValue 0 text (.num n) := by
  have hspace := skipSpace_of_number? h
  rw [← hspace] at h
  exact ⟨[], .num (number?_form h) h, rfl⟩

inductive Literal : Json → Prop
  | null : Literal .null
  | bool (b : Bool) : Literal (.bool b)
  | int {n : Int} (h : Fits64 n) : Literal (.int n)
  | str (s : String) : Literal (.str s)

theorem isValue_print {v : Json} (h : Literal v) : IsValue 0 (print v) v := by
  cases h with
  | null => exact ⟨[], .null rfl, rfl⟩
  | bool b => exact ⟨[], .bool b (by cases b <;> rfl), rfl⟩
  | int h => exact isValue_of_number? (number?_toString h)
  | str s =>
    obtain ⟨inside, hinside, hquoted⟩ := quoted_quotedList s.toList []
    rw [List.append_nil] at hinside
    have htext : (print (.str s)).toList = '"' :: inside := String.toList_ofList.trans hinside
    exact ⟨[], .str (by rw [htext]; rfl) hquoted, rfl⟩

end OrgPipeline.Json
