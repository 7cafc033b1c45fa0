/-
Esp32Mod/CallProtocol.lean

Programs that call something else by its protocol: what is initialised before it is used, not used
after it is gone, and called with arguments that it takes.

A `Protocol` is an automaton: in a state some calls are allowed, and a call leads to a state.  A
program has a state of its own, keeps a log of the calls that it makes, with what has been
answered, and asks a world of which nothing is known.

`Leads p s t prog post` is the specification of a program: begun in its own state `s`, with a log
that has kept the protocol and led it to `t`, it keeps the protocol, and `post` holds in the end of
its result and of both states.  The log that has been there before is in the definition, so each
operation has a rule in front of any program, and programs are put together by `Leads.bind`.
-/
import Mathlib.Tactic.Common

namespace CallProtocol

/-- Which calls are allowed, and what they lead to. -/
structure Protocol (τ κ : Type) where
  allowed : τ → κ → Prop
  after : τ → κ → τ

variable {τ κ σ ω α β : Type} {p : Protocol τ κ}

/-! ### Logs -/

/-- The state after a log. -/
def Protocol.ends (p : Protocol τ κ) (t : τ) (log : List κ) : τ := log.foldl p.after t

/-- Each call is allowed where it is made. -/
def Protocol.Keeps (p : Protocol τ κ) : τ → List κ → Prop
  | _, [] => True
  | t, c :: log => p.allowed t c ∧ p.Keeps (p.after t c) log

variable {t t' : τ} {log log' : List κ} {c : κ}

theorem ends_append : p.ends t (log ++ log') = p.ends (p.ends t log) log' := List.foldl_append

theorem keeps_append : p.Keeps t (log ++ log') ↔ p.Keeps t log ∧ p.Keeps (p.ends t log) log' := by
  induction log generalizing t with
  | nil => exact ⟨fun h => ⟨trivial, h⟩, fun h => h.2⟩
  | cons c log ih =>
    rw [List.cons_append, Protocol.Keeps, Protocol.Keeps, ih, and_assoc]
    rfl

/-- One more call. -/
theorem keeps_concat (hlog : p.Keeps t log) (hc : p.allowed (p.ends t log) c) :
    p.Keeps t (log ++ [c]) :=
  keeps_append.mpr ⟨hlog, hc, trivial⟩

/-- A call that has been made was allowed. -/
theorem allowed_of_keeps (h : p.Keeps t (log ++ c :: log')) : p.allowed (p.ends t log) c :=
  (keeps_append.mp h).2.1

/-! ### Programs -/

/-- A program with a state of its own. -/
abbrev Caller (σ κ ω : Type) := StateM (σ × List κ × ω)

/-- The state. -/
def look : Caller σ κ ω σ := fun s => (s.1, s)

/-- Replace the state. -/
def change (f : σ → σ) : Caller σ κ ω Unit := fun s => ((), f s.1, s.2)

/-- A call, with what it answers. -/
def call (question : ω → α × ω) (entry : α → κ) : Caller σ κ ω α := fun s =>
  ((question s.2.2).1, s.1, s.2.1 ++ [entry (question s.2.2).1], (question s.2.2).2)

/-- What a program does from `s` and `t` on. -/
def Leads (p : Protocol τ κ) (s : σ) (t : τ) (prog : Caller σ κ ω α) (post : α → σ → τ → Prop) :
    Prop :=
  ∀ log w t₀, p.Keeps t₀ log → p.ends t₀ log = t →
    p.Keeps t₀ (prog (s, log, w)).2.2.1 ∧
      post (prog (s, log, w)).1 (prog (s, log, w)).2.1 (p.ends t₀ (prog (s, log, w)).2.2.1)

variable {s : σ} {post : α → σ → τ → Prop} {mid : β → σ → τ → Prop}

theorem Leads.pure {a : α} (h : post a s t) : Leads p s t (Pure.pure a : Caller σ κ ω α) post := by
  intro log w t₀ hkeeps hends
  subst hends
  exact ⟨hkeeps, h⟩

theorem Leads.look {k : σ → Caller σ κ ω α} (hk : Leads p s t (k s) post) :
    Leads p s t (CallProtocol.look >>= k) post := hk

theorem Leads.change {f : σ → σ} {k : Unit → Caller σ κ ω α} (hk : Leads p (f s) t (k ()) post) :
    Leads p s t (CallProtocol.change f >>= k) post := hk

theorem Leads.call {question : ω → β × ω} {entry : β → κ} {k : β → Caller σ κ ω α}
    (hallowed : ∀ b, p.allowed t (entry b)) (hk : ∀ b, Leads p s (p.after t (entry b)) (k b) post) :
    Leads p s t (CallProtocol.call question entry >>= k) post := by
  intro log w t₀ hkeeps hends
  subst hends
  refine hk _ _ _ t₀ (keeps_concat hkeeps (hallowed _)) ?_
  exact ends_append

theorem Leads.bind {prog : Caller σ κ ω β} {k : β → Caller σ κ ω α} (hprog : Leads p s t prog mid)
    (hk : ∀ b s' t', mid b s' t' → Leads p s' t' (k b) post) : Leads p s t (prog >>= k) post := by
  intro log w t₀ hkeeps hends
  obtain ⟨hkeeps', hmid⟩ := hprog log w t₀ hkeeps hends
  exact hk _ _ _ hmid _ _ t₀ hkeeps' rfl

theorem Leads.conseq {prog : Caller σ κ ω α} {post' : α → σ → τ → Prop}
    (hprog : Leads p s t prog post) (himp : ∀ a s t, post a s t → post' a s t) :
    Leads p s t prog post' := by
  intro log w t₀ hkeeps hends
  obtain ⟨hkeeps', hpost⟩ := hprog log w t₀ hkeeps hends
  exact ⟨hkeeps', himp _ _ _ hpost⟩

theorem Leads.map {prog : Caller σ κ ω β} {f : β → α}
    (hprog : Leads p s t prog fun b => post (f b)) : Leads p s t (f <$> prog) post := hprog

/-- A program that makes no call on one side of a test. -/
theorem Leads.ite {c : Prop} [Decidable c] {yes no : Caller σ κ ω α}
    (hyes : c → Leads p s t yes post) (hno : ¬ c → Leads p s t no post) :
    Leads p s t (if c then yes else no) post := by
  split
  next h => exact hyes h
  next h => exact hno h

end CallProtocol
