import OrgPipeline.Tools
import OrgPipeline.Proofs.Platform.Sfdx
import OrgPipeline.Proofs.Step.Likeness
import Mathlib.Data.List.Forall2

/-!
# Starts that are given a secret

Two worlds in which the programs answer the same, whichever of two secrets they
are given. A start that is given the one secret here and the other there shows a
run the same in both.
-/

set_option autoImplicit false

namespace OrgPipeline
open Sequence

/-- What two starts with these arguments may be given as tokens: the same, or a
secret each, but this only where a token is to be stored. -/
inductive Veiled (a b : String) (args : List String) : Option String → Option String → Prop where
  | same (token : Option String) : Veiled a b args token token
  | secret (h : args.head? = some "auth:accesstoken:store") : Veiled a b args (some a) (some b)

structure Start.Veiled (a b : String) (s t : Start) : Prop where
  program : s.program = t.program
  args : s.args = t.args
  place : s.place = t.place
  files : s.files = t.files
  token : OrgPipeline.Veiled a b s.args s.token t.token

structure Reply.Veiled (a b : String) (r r' : Reply) : Prop where
  stdout : r.stdout = r'.stdout
  stderr : r.stderr = r'.stderr
  ending : r.ending = r'.ending
  effect : ∀ {s t : Start}, s.Veiled a b t → ∀ files, r.effect s files = r'.effect t files

/-- Only the tokens tell the two worlds apart: those that were given to programs,
and those that programs are yet to be given. -/
structure World.Veiled (a b : String) (v w : World) : Prop where
  files : v.files = w.files
  here : v.here = w.here
  serial : v.serial = w.serial
  stdin : v.stdin = w.stdin
  terminal : v.terminal = w.terminal
  programs : List.Forall₂ (fun x y => x.1 = y.1 ∧ x.2.Veiled a b y.2) v.programs w.programs
  script : List.Forall₂ (Option.Rel (Reply.Veiled a b)) v.script w.script
  starts : List.Forall₂ (Start.Veiled a b) v.starts w.starts

section
variable {a b : String} {v w : World}

theorem World.alongside_veiled : Alongside (World.Veiled a b) where
  files h := h.files
  here h := h.here
  serial h := h.serial
  withFiles h _ :=
    ⟨rfl, h.here, h.serial, h.stdin, h.terminal, h.programs, h.script, h.starts⟩
  withSerial h _ :=
    ⟨h.files, h.here, rfl, h.stdin, h.terminal, h.programs, h.script, h.starts⟩

/-- A world whose programs do not let on which token they are given looks the same
with either secret. -/
theorem World.veiled_self (h : ∀ reply, w.Answers reply → reply.Veiled a b reply) :
    World.Veiled a b w w where
  files := rfl
  here := rfl
  serial := rfl
  stdin := rfl
  terminal := rfl
  programs := List.forall₂_same.2 fun x hx => ⟨rfl, h x.2 (Or.inr ⟨x.1, hx⟩)⟩
  script := List.forall₂_same.2 fun laid hlaid => by
    cases laid with
    | none => exact .none
    | some reply => exact .some (h reply (Or.inl hlaid))
  starts := List.forall₂_same.2 fun s _ => ⟨rfl, rfl, rfl, rfl, .same s.token⟩

theorem World.lookup_veiled {programs programs' : List (String × Reply)}
    (h : List.Forall₂ (fun x y => x.1 = y.1 ∧ x.2.Veiled a b y.2) programs programs')
    (program : String) :
    Option.Rel (Reply.Veiled a b) (programs.lookup program) (programs'.lookup program) := by
  induction h with
  | nil => exact .none
  | @cons x y xs ys hxy _ ih =>
    rw [List.lookup_cons, List.lookup_cons, ← hxy.1]
    cases program == x.1 with
    | true => exact .some hxy.2
    | false => exact ih

theorem World.next_veiled {script script' : List (Option Reply)} {r r' : Reply}
    (h : List.Forall₂ (Option.Rel (Reply.Veiled a b)) script script') (hr : r.Veiled a b r') :
    ((script.head?.join).getD r).Veiled a b ((script'.head?.join).getD r') := by
  cases h with
  | nil => exact hr
  | cons hfirst _ =>
    cases hfirst with
    | none => exact hr
    | some hlaid => exact hlaid

theorem ProgramOutput.ofReply_veiled {r r' : Reply} (h : r.Veiled a b r') :
    ofReply r = ofReply r' := by
  rw [ofReply, ofReply, h.stdout, h.stderr, h.ending]

namespace Launch

def handing (l : Launch) (token : Option String) : Launch := { l with token }

theorem run_of_prepare {l : Launch} {start : Start} {unprompted : Reply}
    (h : l.prepare w = .ok (start, unprompted)) :
    l.run w = (.ok ((w.script.head?.join).getD unprompted), { w with
      files := ((w.script.head?.join).getD unprompted).effect start w.files
      script := w.script.tail
      starts := w.starts ++ [start] }) := by
  rw [run, h]

variable (ha : Files.hasNul a = false) (hb : Files.hasNul b = false)
include ha hb

theorem hasNul_veiled {l : Launch} {token : Option String}
    (hl : Veiled a b l.args l.token token) :
    l.texts.any Files.hasNul = (l.handing token).texts.any Files.hasNul := by
  obtain ⟨directory, program, args, given⟩ := l
  cases hl with
  | same => rfl
  | secret _ => simp [texts, handing, ha, hb]

/-- Either launch is refused for the same reason, or both start. -/
theorem prepare_veiled {l : Launch} {token : Option String}
    (hl : Veiled a b l.args l.token token) (h : World.Veiled a b v w) :
    (∃ problem, l.prepare v = .error problem ∧ (l.handing token).prepare w = .error problem) ∨
      ∃ s t r r', l.prepare v = .ok (s, r) ∧ (l.handing token).prepare w = .ok (t, r') ∧
        s.Veiled a b t ∧ r.Veiled a b r' := by
  have hplace : l.place v.here v.files = (l.handing token).place w.here w.files := by
    rw [h.here, h.files]
    rfl
  unfold prepare
  rw [hasNul_veiled ha hb hl, hplace]
  split
  · exact Or.inl ⟨_, rfl, rfl⟩
  · cases (l.handing token).place w.here w.files with
    | error problem => exact Or.inl ⟨problem, rfl, rfl⟩
    | ok place =>
      have hprogram := World.lookup_veiled h.programs l.program
      change Option.Rel _ _ (w.programs.lookup (l.handing token).program) at hprogram
      dsimp only
      generalize v.programs.lookup l.program = found at hprogram ⊢
      generalize w.programs.lookup (l.handing token).program = found' at hprogram ⊢
      cases hprogram with
      | none => exact Or.inl ⟨_, rfl, rfl⟩
      | @some r r' hr => exact Or.inr ⟨_, _, r, r', rfl, rfl, ⟨rfl, rfl, rfl, h.files, hl⟩, hr⟩

theorem agree_capture {l : Launch} {token : Option String}
    (hl : Veiled a b l.args l.token token) (context : String) :
    Agree (World.Veiled a b) (l.capture context) ((l.handing token).capture context) := by
  intro v w h
  rcases prepare_veiled ha hb hl h with ⟨problem, hv, hw⟩ | ⟨s, t, r, r', hv, hw, hst, hr⟩
  · have hrunv : l.run v = (.error problem, v) := by rw [run, hv]
    have hrunw : (l.handing token).run w = (.error problem, w) := by rw [run, hw]
    rw [capture_of_error hrunv, capture_of_error hrunw]
    exact ⟨rfl, h⟩
  · have hnext := World.next_veiled h.script hr
    rw [capture_of_ok (run_of_prepare hv), capture_of_ok (run_of_prepare hw),
      ProgramOutput.ofReply_veiled hnext]
    refine ⟨rfl, ?_⟩
    exact {
      files := by rw [h.files]; exact hnext.effect hst w.files
      here := h.here
      serial := h.serial
      stdin := h.stdin
      terminal := h.terminal
      programs := h.programs
      script := by simpa only [List.drop_one] using List.forall₂_drop 1 h.script
      starts := List.rel_append h.starts (.cons hst .nil) }

theorem agree_trimmedOutput (l : Launch) (context : String) :
    Agree (World.Veiled a b) (l.trimmedOutput context) (l.trimmedOutput context) :=
  agree_bind (agree_capture ha hb (.same l.token) context) fun _ =>
    agree_ite (agree_pure _) (agree_throw _)

end Launch

structure Tools.Conceals (a b : String) (tools : Tools) : Prop where
  matching : Tools.Matching (World.Veiled a b) tools tools
  store : ∀ name instanceUrl, Agree (World.Veiled a b)
    (tools.platform (.storeAccessToken name instanceUrl a))
    (tools.platform (.storeAccessToken name instanceUrl b))

section
variable (ha : Files.hasNul a = false) (hb : Files.hasNul b = false)
include ha hb

namespace Platform.Sfdx

theorem agree_runEnveloped (tool : Sfdx) {c d : Command} (hsame : invocation c = invocation d)
    (htoken : Veiled a b (tool.launch c).args (token? c) (token? d)) :
    Agree (World.Veiled a b) (tool.runEnveloped c) (tool.runEnveloped d) := by
  have hlaunch : tool.launch d = (tool.launch c).handing (token? d) := by
    rw [launch, launch, ← hsame]
    rfl
  have henveloped (c : Command) : tool.runEnveloped c =
      (tool.launch c).capture (invocation c).1 >>= fun output =>
        Action.ofExcept (Envelope.answer (invocation c).1 output) := rfl
  rw [henveloped, henveloped, hlaunch, ← hsame]
  exact agree_bind (Launch.agree_capture ha hb htoken _) fun _ => agree_ofExcept _

theorem agree_runQuery (tool : Sfdx) (c : Command) (csvFile : String) (header : Option String) :
    Agree (World.Veiled a b) (tool.runQuery c csvFile header) (tool.runQuery c csvFile header) :=
  agree_bind (Launch.agree_capture ha hb (.same none) _) fun _ =>
    agree_ite (agree_bind (agree_writeText World.alongside_veiled _ _ _) fun _ => agree_pure _)
      (agree_throw _)

theorem agree_perform (tool : Sfdx) (c : Command) :
    Agree (World.Veiled a b) (tool.perform c) (tool.perform c) := by
  have henveloped (c : Command) :
      Agree (World.Veiled a b) (tool.runEnveloped c) (tool.runEnveloped c) :=
    agree_runEnveloped ha hb tool rfl (.same (token? c))
  unfold perform
  split
  · exact agree_runQuery ha hb tool _ _ _
  · exact henveloped c

theorem agree_storeAccessToken (tool : Sfdx) (name instanceUrl : String) :
    Agree (World.Veiled a b) (tool.perform (.storeAccessToken name instanceUrl a))
      (tool.perform (.storeAccessToken name instanceUrl b)) := by
  have hstored : Agree (World.Veiled a b) (tool.runEnveloped (.storeAccessToken name instanceUrl a))
      (tool.runEnveloped (.storeAccessToken name instanceUrl b)) :=
    agree_runEnveloped ha hb tool rfl (.secret rfl)
  exact hstored

end Platform.Sfdx

theorem VersionControl.agree_perform (directory : String) (c : VersionControl.Command) :
    Agree (World.Veiled a b) (VersionControl.perform directory c)
      (VersionControl.perform directory c) := by
  apply agree_bind (agree_attempt (Launch.agree_trimmedOutput ha hb _ _))
  intro answer
  cases answer with
  | ok text => exact agree_pure ()
  | error e => exact agree_throw _

theorem Tools.conceals_programs (tool : Platform.Sfdx) (repository : String) :
    Tools.Conceals a b ⟨tool.perform, VersionControl.perform repository⟩ where
  matching := {
    alongside := World.alongside_veiled
    platform := tool.agree_perform ha hb
    repository := VersionControl.agree_perform ha hb repository }
  store := tool.agree_storeAccessToken ha hb

end
end
end OrgPipeline
