import OrgPipeline.Json.Reader

/-!
# Passing over a value

A value that nobody asks for is passed over by its outline. It must follow the
grammar, but its numbers may be of any size, its escapes may stand for no
character, and it may be nested to any depth.
-/

set_option autoImplicit false

namespace OrgPipeline.Json

def skipString : Nat → List Char → Option (List Char)
  | 0, _ => none
  | _ + 1, [] => none
  | fuel + 1, c :: rest =>
    if c = '"' then some rest
    else if c = '\\' then
      match rest with
      | [] => none
      | d :: rest =>
        if d = 'u' then (hexUnit? rest).bind fun (_, rest) => skipString fuel rest
        else if "\"\\/bfnrt".toList.contains d then skipString fuel rest
        else none
    else if c.toNat < 0x20 then none
    else skipString fuel rest

def skipDigits (cs : List Char) : Option (List Char) :=
  if startsWithDigit cs then some (cs.dropWhile Decimal.isDigit) else none

def skipExponent (cs : List Char) : Option (List Char) :=
  match cs with
  | 'e' :: rest | 'E' :: rest =>
    match rest with
    | '+' :: digits | '-' :: digits => skipDigits digits
    | digits => skipDigits digits
  | rest => some rest

def skipFraction (cs : List Char) : Option (List Char) :=
  match cs with
  | '.' :: rest => (skipDigits rest).bind skipExponent
  | rest => skipExponent rest

def skipMagnitude (cs : List Char) : Option (List Char) :=
  match cs with
  | '0' :: rest => if startsWithDigit rest then none else skipFraction rest
  | cs => (skipDigits cs).bind skipFraction

mutual

/-- What follows a value, blanks before it skipped. -/
def skipValue : Nat → List Char → Option (List Char)
  | 0, _ => none
  | fuel + 1, cs =>
    match skipSpace cs with
    | [] => none
    | '"' :: rest => skipString (rest.length + 1) rest
    | '[' :: rest =>
      match skipSpace rest with
      | ']' :: rest => some rest
      | rest => skipItems fuel rest
    | '\x7b' :: rest =>
      match skipSpace rest with
      | '\x7d' :: rest => some rest
      | rest => skipMembers fuel rest
    | 't' :: rest => Text.afterList "rue".toList rest
    | 'f' :: rest => Text.afterList "alse".toList rest
    | 'n' :: rest => Text.afterList "ull".toList rest
    | '-' :: rest => skipMagnitude rest
    | rest => skipMagnitude rest

def skipItems : Nat → List Char → Option (List Char)
  | 0, _ => none
  | fuel + 1, cs => do
    let rest ← skipValue fuel cs
    match skipSpace rest with
    | ',' :: rest => skipItems fuel rest
    | ']' :: rest => some rest
    | _ => none

def skipMembers : Nat → List Char → Option (List Char)
  | 0, _ => none
  | fuel + 1, cs =>
    match skipSpace cs with
    | '"' :: rest => do
      let rest ← skipString (rest.length + 1) rest
      match skipSpace rest with
      | ':' :: rest =>
        let rest ← skipValue fuel rest
        match skipSpace rest with
        | ',' :: rest => skipMembers fuel rest
        | '\x7d' :: rest => some rest
        | _ => none
      | _ => none
    | _ => none

end

/-- The members of an object up to its brace, at least one, in the order
written; only those with names that are asked for. -/
def chosenMembers? (asked : String → Bool) (depth : Nat) :
    Nat → List Char → Option (Members × List Char)
  | 0, _ => none
  | fuel + 1, cs => do
    let (name, rest) ← string? (skipSpace cs)
    match skipSpace rest with
    | ':' :: rest =>
      let (member, rest) ←
        if asked name then
          (value? (stepsFor rest) depth rest).map fun (v, rest) => ([(name, v)], rest)
        else (skipValue (stepsFor rest) rest).map fun rest => (([] : Members), rest)
      match skipSpace rest with
      | ',' :: rest =>
        let (members, rest) ← chosenMembers? asked depth fuel rest
        some (member ++ members, rest)
      | '\x7d' :: rest => some (member, rest)
      | _ => none
    | _ => none

def readMembers (asked : String → Bool) (cs : List Char) : Option Members :=
  match skipSpace cs with
  | '\x7b' :: rest =>
    let read := match skipSpace rest with
      | '\x7d' :: rest => some (([] : Members), rest)
      | rest => chosenMembers? asked (depthLimit - 1) (rest.length + 1) rest
    match read with
    | some (members, rest) => if (skipSpace rest).isEmpty then some members else none
    | none => none
  | _ => none

end OrgPipeline.Json
