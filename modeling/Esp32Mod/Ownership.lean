/-
Esp32Mod/Ownership.lean

Programs that own what they acquire: memory, driver objects, open files.  A program keeps a log,
in which every acquisition, every use and every release is an entry, and asks the world around it,
of which nothing is known: whether there is memory, what a driver answers.  A handle gets the place
of its acquisition in the log for a number, so no two are the same.

A `Contract` says what may be acquired, what each kind of thing may be used for, and which other
things it rests on.  `Owns log held` checks a log one entry after the other: what is acquired is
proper and rests on what is held, only what is held is used or released, and nothing is released
that something held still rests on.  `held` is what is left in the end.  What that says about the
life of a handle is `Owns.disciplined`.

`Triple P prog Q` is the specification of a program: in a log that owns `P` and anything else it
leaves a log that owns what `Q` says and that else.  The frame is in the definition, so there is a
rule for each operation in front of any program (`Triple.ask`, `Triple.acquire`, `Triple.use`,
`Triple.release`), and `Triple.bind` and `Triple.call` for programs with a specification of their
own.

A program that is run for one object of a table leaves the others what they own (`Triple.at_set`).

`Ensures` is about the other half, the world: what a program makes of it and finds in it.
-/
import Mathlib.Algebra.BigOperators.Group.List.Basic
import Mathlib.Algebra.Order.Group.Multiset
import Mathlib.Data.Multiset.AddSub
import Mathlib.Data.Multiset.UnionInter
import Mathlib.Tactic.Common

namespace Ownership

/-- What kind of thing a handle is, and the place in the log where it has been acquired. -/
structure Handle (κ : Type) where
  kind : κ
  number : Nat
  deriving DecidableEq

/-- An entry of a log; `how` says what a handle is used for. -/
inductive Op (κ υ : Type)
  | acquire (h : Handle κ)
  | use (h : Handle κ) (how : υ)
  | release (h : Handle κ)
  deriving DecidableEq

/-- What may be acquired, the numbers of the handles that each kind rests on, and what it may be
used for. -/
structure Contract (κ υ : Type) where
  proper : κ → Bool
  rests : κ → List Nat
  legal : κ → υ → Bool

variable {κ υ ω α β σ : Type} {C : Contract κ υ}
variable {n : Nat} {held held' P E F : Multiset (Handle κ)} {log ops ops' : List (Op κ υ)}
  {h : Handle κ} {how : υ}

/-! ### What is held -/

/-- What is held rests on what is held. -/
def Closed (C : Contract κ υ) (held : Multiset (Handle κ)) : Prop :=
  ∀ x ∈ held, ∀ p ∈ C.rests x.kind, p ∈ held.map Handle.number

theorem Closed.add (hE : Closed C E) (hF : Closed C F) : Closed C (E + F) := by
  intro x hx p hp
  rw [Multiset.map_add]
  rcases Multiset.mem_add.mp hx with hx | hx
  · exact Multiset.mem_add.mpr (.inl (hE x hx p hp))
  · exact Multiset.mem_add.mpr (.inr (hF x hx p hp))

theorem closed_zero : Closed C 0 := fun _ hx => absurd hx (Multiset.notMem_zero _)

theorem closed_sum {owned : σ → Multiset (Handle κ)} {objects : List σ}
    (h : ∀ o ∈ objects, Closed C (owned o)) : Closed C (objects.map owned).sum := by
  induction objects with
  | nil => exact closed_zero
  | cons o objects ih =>
    rw [List.map_cons, List.sum_cons]
    exact (h o List.mem_cons_self).add (ih fun o ho => h o (List.mem_cons_of_mem _ ho))

theorem sum_set {owned : σ → Multiset (Handle κ)} {objects : List σ} {i : Nat}
    (hi : i < objects.length) (next : σ) : ((objects.set i next).map owned).sum =
      ((objects.eraseIdx i).map owned).sum + owned next := by
  rw [List.set_eq_take_append_cons_drop, if_pos hi, List.eraseIdx_eq_take_drop_succ]
  simp only [List.map_append, List.map_cons, List.sum_append, List.sum_cons]
  rw [add_left_comm, add_comm]

/-- Nothing there rests on anything. -/
def Plain (C : Contract κ υ) (held : Multiset (Handle κ)) : Prop :=
  ∀ x ∈ held, C.rests x.kind = []

theorem plain_zero : Plain C 0 := fun _ hx => absurd hx (Multiset.notMem_zero _)

theorem Plain.cons (hh : C.rests h.kind = []) (hP : Plain C P) : Plain C (h ::ₘ P) := by
  intro x hx
  rcases Multiset.mem_cons.mp hx with rfl | hx
  · exact hh
  · exact hP x hx

theorem Plain.free (hP : Plain C P) (n : Nat) : ∀ x ∈ P, n ∉ C.rests x.kind := by
  intro x hx
  rw [hP x hx]
  exact List.not_mem_nil

theorem Plain.closed (hP : Plain C P) : Closed C P :=
  fun x hx p hp => absurd hp (hP.free p x hx)

/-- What is held before place `n`. -/
structure Sound (C : Contract κ υ) (n : Nat) (held : Multiset (Handle κ)) : Prop where
  before : ∀ x ∈ held, x.number < n
  distinct : (held.map Handle.number).Nodup
  proper : ∀ x ∈ held, C.proper x.kind
  closed : Closed C held

theorem sound_zero : Sound C 0 0 :=
  ⟨by simp, by simp, by simp, closed_zero⟩

variable [DecidableEq κ]

/-! ### Logs -/

/-- What is held after the entry at place `n`; `none` if it is not allowed. -/
def act (C : Contract κ υ) (n : Nat) (held : Multiset (Handle κ)) :
    Op κ υ → Option (Multiset (Handle κ))
  | .acquire h =>
    if h.number = n ∧ C.proper h.kind ∧ ∀ p ∈ C.rests h.kind, p ∈ held.map Handle.number then
      some (h ::ₘ held)
    else none
  | .use h how => if h ∈ held ∧ C.legal h.kind how then some held else none
  | .release h =>
    if h ∈ held ∧ ∀ x ∈ held, h.number ∉ C.rests x.kind then some (held.erase h) else none

/-- What is held after a log that begins at place `n`. -/
def perform (C : Contract κ υ) : Nat → Multiset (Handle κ) → List (Op κ υ) →
    Option (Multiset (Handle κ))
  | _, held, [] => some held
  | n, held, op :: ops => (act C n held op).bind fun held => perform C (n + 1) held ops

/-- Every entry of the log is allowed, and `held` is left in the end. -/
def Owns (C : Contract κ υ) (log : List (Op κ υ)) (held : Multiset (Handle κ)) : Prop :=
  perform C 0 0 log = some held

theorem act_acquire_some (hact : act C n held (.acquire h) = some held') :
    (h.number = n ∧ C.proper h.kind ∧ ∀ p ∈ C.rests h.kind, p ∈ held.map Handle.number) ∧
      held' = h ::ₘ held := by
  rw [act] at hact
  split at hact
  next hallowed => exact ⟨hallowed, (Option.some.inj hact).symm⟩
  next => cases hact

theorem act_use_some (hact : act C n held (.use h how) = some held') :
    (h ∈ held ∧ C.legal h.kind how) ∧ held' = held := by
  rw [act] at hact
  split at hact
  next hallowed => exact ⟨hallowed, (Option.some.inj hact).symm⟩
  next => cases hact

theorem act_release_some (hact : act C n held (.release h) = some held') :
    (h ∈ held ∧ ∀ x ∈ held, h.number ∉ C.rests x.kind) ∧ held' = held.erase h := by
  rw [act] at hact
  split at hact
  next hallowed => exact ⟨hallowed, (Option.some.inj hact).symm⟩
  next => cases hact

theorem perform_append : perform C n held (ops ++ ops') =
    (perform C n held ops).bind fun held => perform C (n + ops.length) held ops' := by
  induction ops generalizing n held with
  | nil => rfl
  | cons op ops ih =>
    have hplace : n + (op :: ops).length = n + 1 + ops.length := by
      rw [List.length_cons]
      omega
    rw [List.cons_append, perform, perform, Option.bind_assoc, hplace]
    congr 1
    funext held
    exact ih

theorem owns_nil : Owns C [] 0 := rfl

/-- One more entry. -/
theorem Owns.concat (hlog : Owns C log held) {op : Op κ υ}
    (hact : act C log.length held op = some held') : Owns C (log ++ [op]) held' := by
  unfold Owns at hlog ⊢
  rw [perform_append, hlog, Option.bind_some, Nat.zero_add, perform, hact]
  rfl

/-- The entries up to any point are allowed, and so is the next one. -/
theorem Owns.split {op : Op κ υ} (hlog : Owns C (ops ++ op :: ops') held) :
    ∃ before after, Owns C ops before ∧ act C ops.length before op = some after := by
  unfold Owns at hlog
  rw [perform_append] at hlog
  obtain ⟨before, hbefore, hrest⟩ := Option.bind_eq_some_iff.mp hlog
  rw [Nat.zero_add] at hrest
  obtain ⟨after, hact, -⟩ := Option.bind_eq_some_iff.mp hrest
  exact ⟨before, after, hbefore, hact⟩

theorem act_sound {op : Op κ υ} (hsound : Sound C n held) (hact : act C n held op = some held') :
    Sound C (n + 1) held' := by
  cases op with
  | acquire h =>
    obtain ⟨⟨rfl, hproper, hrests⟩, rfl⟩ := act_acquire_some hact
    refine ⟨fun x hx => ?_, ?_, fun x hx => ?_, fun x hx p hp => ?_⟩
    · rcases Multiset.mem_cons.mp hx with rfl | hx
      · exact Nat.lt_succ_self _
      · exact (hsound.before x hx).trans (Nat.lt_succ_self _)
    · rw [Multiset.map_cons, Multiset.nodup_cons]
      refine ⟨fun hmem => ?_, hsound.distinct⟩
      obtain ⟨y, hy, heq⟩ := Multiset.mem_map.mp hmem
      exact (heq ▸ hsound.before y hy).false
    · rcases Multiset.mem_cons.mp hx with rfl | hx
      · exact hproper
      · exact hsound.proper x hx
    · rw [Multiset.map_cons]
      refine Multiset.mem_cons_of_mem ?_
      rcases Multiset.mem_cons.mp hx with rfl | hx
      · exact hrests p hp
      · exact hsound.closed x hx p hp
  | use h how =>
    obtain ⟨-, rfl⟩ := act_use_some hact
    exact ⟨fun x hx => (hsound.before x hx).trans (Nat.lt_succ_self _), hsound.distinct,
      hsound.proper, hsound.closed⟩
  | release h =>
    obtain ⟨⟨hmem, hfree⟩, rfl⟩ := act_release_some hact
    have hheld : ∀ x, x ∈ held.erase h → x ∈ held := fun x hx => Multiset.mem_of_mem_erase hx
    refine ⟨fun x hx => (hsound.before x (hheld x hx)).trans (Nat.lt_succ_self _), ?_,
      fun x hx => hsound.proper x (hheld x hx), fun x hx p hp => ?_⟩
    · exact Multiset.nodup_of_le (Multiset.map_le_map (Multiset.erase_le h held)) hsound.distinct
    · obtain ⟨y, hy, rfl⟩ := Multiset.mem_map.mp (hsound.closed x (hheld x hx) p hp)
      refine Multiset.mem_map_of_mem _ ((Multiset.mem_erase_of_ne ?_).mpr hy)
      -- nothing that stays rests on what is released
      rintro rfl
      exact hfree x (hheld x hx) hp

theorem perform_sound (hsound : Sound C n held) (hlog : perform C n held log = some held') :
    Sound C (n + log.length) held' := by
  induction log generalizing n held with
  | nil =>
    obtain rfl := Option.some.inj hlog
    exact hsound
  | cons op log ih =>
    obtain ⟨held₁, hact, hrest⟩ := Option.bind_eq_some_iff.mp hlog
    rw [List.length_cons, Nat.add_comm log.length, ← Nat.add_assoc]
    exact ih (act_sound hsound hact) hrest

theorem Owns.sound (hlog : Owns C log held) : Sound C log.length held := by
  have h := perform_sound sound_zero hlog
  rwa [Nat.zero_add] at h

/-! ### The life of a handle -/

variable [DecidableEq υ]

/-- Acquisitions and releases of a handle in a log. -/
theorem perform_count (hlog : perform C n held log = some held') (h : Handle κ) :
    held.count h + log.count (.acquire h) = held'.count h + log.count (.release h) := by
  -- the first entry changes what is held, the rest is the hypothesis
  induction log generalizing n held with
  | nil =>
    obtain rfl := Option.some.inj hlog
    rfl
  | cons op log ih =>
    obtain ⟨held₁, hact, hrest⟩ := Option.bind_eq_some_iff.mp hlog
    have hcount := ih hrest
    cases op with
    | acquire x =>
      obtain ⟨-, rfl⟩ := act_acquire_some hact
      rw [List.count_cons, List.count_cons_of_ne (by simp)]
      rw [Multiset.count_cons] at hcount
      by_cases hx : x = h
      · subst hx
        simp only [if_true, beq_self_eq_true] at hcount ⊢
        omega
      · have hbeq : (Op.acquire x == (Op.acquire h : Op κ υ)) = false := by simpa using hx
        simp only [if_neg (Ne.symm hx), hbeq, Bool.false_eq_true, if_false] at hcount ⊢
        omega
    | use x how =>
      obtain ⟨-, rfl⟩ := act_use_some hact
      rw [List.count_cons_of_ne (by simp), List.count_cons_of_ne (by simp)]
      exact hcount
    | release x =>
      obtain ⟨⟨hmem, -⟩, rfl⟩ := act_release_some hact
      rw [List.count_cons_of_ne (by simp), List.count_cons]
      by_cases hx : x = h
      · subst hx
        have hpos := Multiset.one_le_count_iff_mem.mpr hmem
        rw [Multiset.count_erase_self] at hcount
        simp only [beq_self_eq_true, if_true]
        omega
      · have hbeq : (Op.release x == (Op.release h : Op κ υ)) = false := by simpa using hx
        rw [Multiset.count_erase_of_ne (Ne.symm hx)] at hcount
        simp only [hbeq, Bool.false_eq_true, if_false]
        omega

/-- A handle is acquired at the place that is its number and nowhere else. -/
theorem perform_acquire_count (hlog : perform C n held log = some held') (h : Handle κ) :
    log.count (.acquire h) ≤ if n ≤ h.number then 1 else 0 := by
  induction log generalizing n held with
  | nil => exact Nat.zero_le _
  | cons op log ih =>
    obtain ⟨held₁, hact, hrest⟩ := Option.bind_eq_some_iff.mp hlog
    have hlater := ih hrest
    by_cases hop : op = .acquire h
    · subst hop
      obtain ⟨⟨hnumber, -⟩, -⟩ := act_acquire_some hact
      rw [List.count_cons_self, if_pos hnumber.ge]
      rw [if_neg (by omega)] at hlater
      omega
    · rw [List.count_cons_of_ne hop]
      split at hlater <;> split <;> omega

/-- The log treats every handle well. -/
structure Disciplined (log : List (Op κ υ)) (held : Multiset (Handle κ)) : Prop where
  /-- No handle is acquired twice. -/
  once : ∀ h, log.count (.acquire h) ≤ 1
  /-- No handle is released twice, and none is missing that is not held in the end. -/
  balance : ∀ h, log.count (.acquire h) = log.count (.release h) + held.count h
  /-- What is used or released has been acquired before, and not released yet. -/
  alive : ∀ ops op ops' h, log = ops ++ op :: ops' → (op = .release h ∨ ∃ how, op = .use h how) →
    ops.count (.acquire h) = 1 ∧ ops.count (.release h) = 0

theorem Owns.balance (hlog : Owns C log held) (h : Handle κ) :
    log.count (.acquire h) = log.count (.release h) + held.count h := by
  have hcount := perform_count hlog h
  rw [Multiset.count_zero] at hcount
  omega

theorem Owns.once (hlog : Owns C log held) (h : Handle κ) : log.count (.acquire h) ≤ 1 := by
  have hcount := perform_acquire_count hlog h
  rwa [if_pos (Nat.zero_le _)] at hcount

theorem Owns.disciplined (hlog : Owns C log held) : Disciplined log held where
  once := hlog.once
  balance := hlog.balance
  alive := by
    rintro ops op ops' h rfl hop
    obtain ⟨before, after, hbefore, hact⟩ := hlog.split
    have hmem : h ∈ before := by
      rcases hop with rfl | ⟨how, rfl⟩
      · exact (act_release_some hact).1.1
      · exact (act_use_some hact).1.1
    have hheld := Multiset.one_le_count_iff_mem.mpr hmem
    have hbalance := hbefore.balance h
    have honce := hbefore.once h
    omega

omit [DecidableEq υ]

/-! ### Programs -/

/-- A program that keeps a log, in a world that it asks. -/
abbrev Own (κ υ ω : Type) := StateM (List (Op κ υ) × ω)

/-- What the world answers, which changes it. -/
def ask (question : ω → α × ω) : Own κ υ ω α := fun s =>
  ((question s.2).1, s.1, (question s.2).2)

/-- A fresh handle. -/
def acquire (kind : κ) : Own κ υ ω (Handle κ) := fun s =>
  (⟨kind, s.1.length⟩, s.1 ++ [.acquire ⟨kind, s.1.length⟩], s.2)

/-- A use of a handle, which answers nothing. -/
def use (h : Handle κ) (how : υ) : Own κ υ ω Unit := fun s => ((), s.1 ++ [.use h how], s.2)

/-- A handle goes. -/
def release (h : Handle κ) : Own κ υ ω Unit := fun s => ((), s.1 ++ [.release h], s.2)

/-- In a log that owns `P` beside anything that does not rest on it, and whatever the world
answers, the program leaves what `Q` says of its result, and that else. -/
def Triple (C : Contract κ υ) (P : Multiset (Handle κ)) (prog : Own κ υ ω α)
    (Q : α → Multiset (Handle κ) → Prop) : Prop :=
  ∀ F s, Closed C F → Owns C s.1 (F + P) →
    ∃ held, Q (prog s).1 held ∧ Owns C (prog s).2.1 (F + held)

variable {Q : α → Multiset (Handle κ) → Prop} {R : β → Multiset (Handle κ) → Prop}

theorem Triple.pure {a : α} (h : Q a P) : Triple C P (Pure.pure a : Own κ υ ω α) Q :=
  fun _ _ _ hlog => ⟨P, h, hlog⟩

theorem Triple.ask {question : ω → β × ω} {k : β → Own κ υ ω α}
    (hk : ∀ b, Triple C P (k b) Q) : Triple C P (Ownership.ask question >>= k) Q :=
  fun F s hclosed hlog => hk _ F (s.1, (question s.2).2) hclosed hlog

/-- An answer of which something is known. -/
theorem Triple.ask_of {question : ω → β × ω} {k : β → Own κ υ ω α} (Fact : β → Prop)
    (hfact : ∀ w, Fact (question w).1) (hk : ∀ b, Fact b → Triple C P (k b) Q) :
    Triple C P (Ownership.ask question >>= k) Q :=
  fun F s hclosed hlog => hk _ (hfact s.2) F (s.1, (question s.2).2) hclosed hlog

/-- Nothing rests on what has just been acquired. -/
theorem Triple.acquire {kind : κ} {k : Handle κ → Own κ υ ω α} (hproper : C.proper kind)
    (hrests : ∀ p ∈ C.rests kind, p ∈ P.map Handle.number)
    (hk : ∀ h : Handle κ, h.kind = kind → (∀ x ∈ h ::ₘ P, h.number ∉ C.rests x.kind) →
      Triple C (h ::ₘ P) (k h) Q) :
    Triple C P (Ownership.acquire kind >>= k) Q := by
  intro F s hclosed hlog
  have hbelow : ∀ p ∈ C.rests kind, p ∈ (F + P).map Handle.number := by
    intro p hp
    rw [Multiset.map_add]
    exact Multiset.mem_add.mpr (.inr (hrests p hp))
  have hnew : s.1.length ∉ (F + P).map Handle.number := by
    intro hmem
    obtain ⟨y, hy, hnumber⟩ := Multiset.mem_map.mp hmem
    exact (hnumber ▸ hlog.sound.before y hy).false
  have hfree : ∀ x ∈ (⟨kind, s.1.length⟩ : Handle κ) ::ₘ P, s.1.length ∉ C.rests x.kind := by
    intro x hx hp
    rcases Multiset.mem_cons.mp hx with rfl | hx
    · exact hnew (hbelow _ hp)
    · exact hnew (hlog.sound.closed x (Multiset.mem_add.mpr (.inr hx)) _ hp)
  refine hk ⟨kind, s.1.length⟩ rfl hfree F _ hclosed (hlog.concat ?_)
  rw [act, if_pos ⟨rfl, hproper, hbelow⟩, Multiset.add_cons]

theorem Triple.use {k : Unit → Own κ υ ω α} (hmem : h ∈ P) (hlegal : C.legal h.kind how)
    (hk : Triple C P (k ()) Q) : Triple C P (Ownership.use h how >>= k) Q := by
  intro F s hclosed hlog
  refine hk F _ hclosed (hlog.concat ?_)
  rw [act, if_pos ⟨Multiset.mem_add.mpr (.inr hmem), hlegal⟩]

theorem Triple.release {k : Unit → Own κ υ ω α} (hmem : h ∈ P)
    (hfree : ∀ x ∈ P, h.number ∉ C.rests x.kind) (hk : Triple C (P.erase h) (k ()) Q) :
    Triple C P (Ownership.release h >>= k) Q := by
  intro F s hclosed hlog
  have hnone : ∀ x ∈ F + P, h.number ∉ C.rests x.kind := by
    intro x hx
    rcases Multiset.mem_add.mp hx with hx | hx
    · -- the rest of the log rests on itself, and no number is there twice
      intro hp
      have hdistinct := hlog.sound.distinct
      rw [Multiset.map_add] at hdistinct
      exact Multiset.disjoint_left.mp (Multiset.disjoint_of_nodup_add hdistinct)
        (hclosed x hx _ hp) (Multiset.mem_map_of_mem _ hmem)
    · exact hfree x hx
  refine hk F _ hclosed (hlog.concat ?_)
  rw [act, if_pos ⟨Multiset.mem_add.mpr (.inr hmem), hnone⟩, Multiset.erase_add_right_pos _ hmem]

/-- What is on top, where nothing rests on anything. -/
theorem Triple.release_plain {k : Unit → Own κ υ ω α} (hplain : Plain C (h ::ₘ P))
    (hk : Plain C P → Triple C P (k ()) Q) :
    Triple C (h ::ₘ P) (Ownership.release h >>= k) Q := by
  refine Triple.release (Multiset.mem_cons_self _ _) (hplain.free _) ?_
  rw [Multiset.erase_cons_head]
  exact hk fun x hx => hplain x (Multiset.mem_cons_of_mem hx)

/-- No two of the handles that are held have one number. -/
theorem Triple.distinct {prog : Own κ υ ω α}
    (h : (P.map Handle.number).Nodup → Triple C P prog Q) : Triple C P prog Q := by
  intro F s hclosed hlog
  have hdistinct := hlog.sound.distinct
  rw [Multiset.map_add] at hdistinct
  exact h (Multiset.nodup_of_le (Multiset.le_add_left _ _) hdistinct) F s hclosed hlog

theorem Triple.conseq {Q' : α → Multiset (Handle κ) → Prop} {prog : Own κ υ ω α}
    (hprog : Triple C P prog Q) (himp : ∀ a held, Q a held → Q' a held) :
    Triple C P prog Q' := by
  intro F s hclosed hlog
  obtain ⟨held, hq, hlog'⟩ := hprog F s hclosed hlog
  exact ⟨held, himp _ _ hq, hlog'⟩

theorem Triple.map {prog : Own κ υ ω β} {f : β → α}
    (hprog : Triple C P prog fun b => Q (f b)) : Triple C P (f <$> prog) Q := hprog

/-- A program is called beside what its caller keeps. -/
theorem Triple.call {prog : Own κ υ ω β} {k : β → Own κ υ ω α} (hprog : Triple C P prog R)
    (hclosed : Closed C E) (hk : ∀ b held, R b held → Triple C (E + held) (k b) Q) :
    Triple C (E + P) (prog >>= k) Q := by
  intro F s hF hlog
  rw [← Multiset.add_assoc] at hlog
  obtain ⟨held, hr, hlog'⟩ := hprog (F + E) s (hF.add hclosed) hlog
  rw [Multiset.add_assoc] at hlog'
  exact hk _ held hr F _ hF hlog'

/-- A program is called with all that is held. -/
theorem Triple.bind {prog : Own κ υ ω β} {k : β → Own κ υ ω α} (hprog : Triple C P prog R)
    (hk : ∀ b held, R b held → Triple C held (k b) Q) : Triple C P (prog >>= k) Q := by
  intro F s hF hlog
  obtain ⟨held, hr, hlog'⟩ := hprog F s hF hlog
  exact hk _ held hr F _ hF hlog'

/-! ### Attempts -/

/-- What there is of it. -/
def heldSome : Option (Handle κ) → Multiset (Handle κ)
  | some h => {h}
  | none => 0

/-- Release it if it is there. -/
def releaseSome : Option (Handle κ) → Own κ υ ω Unit
  | some h => release h
  | none => Pure.pure ()

/-- Acquire it if the answer of the world is that it is granted. -/
def attempt (question : ω → β × ω) (granted : β → Bool) (kind : κ) :
    Own κ υ ω (β × Option (Handle κ)) := do
  let answer ← ask question
  if granted answer then
    let h ← acquire kind
    Pure.pure (answer, some h)
  else Pure.pure (answer, none)

theorem Triple.releaseSome {o : Option (Handle κ)} {k : Unit → Own κ υ ω α}
    (hfree : ∀ h, o = some h → ∀ x ∈ h ::ₘ P, h.number ∉ C.rests x.kind)
    (hk : Triple C P (k ()) Q) :
    Triple C (heldSome o + P) (Ownership.releaseSome o >>= k) Q := by
  cases o with
  | none =>
    rw [heldSome, zero_add]
    exact hk
  | some h =>
    rw [heldSome, Multiset.singleton_add]
    refine Triple.release (Multiset.mem_cons_self _ _) (hfree h rfl) ?_
    rwa [Multiset.erase_cons_head]

theorem Triple.attempt {question : ω → β × ω} {granted : β → Bool} {kind : κ}
    {k : β × Option (Handle κ) → Own κ υ ω α} (hproper : C.proper kind)
    (hrests : ∀ p ∈ C.rests kind, p ∈ P.map Handle.number)
    (hno : ∀ b, granted b = false → Triple C P (k (b, none)) Q)
    (hyes : ∀ b, ∀ h : Handle κ, granted b = true → h.kind = kind →
      (∀ x ∈ h ::ₘ P, h.number ∉ C.rests x.kind) → Triple C (h ::ₘ P) (k (b, some h)) Q) :
    Triple C P (Ownership.attempt question granted kind >>= k) Q := by
  have hstep : Triple C P (Ownership.attempt question granted kind) fun r held =>
      (granted r.1 = false ∧ r.2 = none ∧ held = P) ∨
        (granted r.1 = true ∧ ∃ h : Handle κ, r.2 = some h ∧ h.kind = kind ∧
          (∀ x ∈ h ::ₘ P, h.number ∉ C.rests x.kind) ∧ held = h ::ₘ P) := by
    refine Triple.ask fun b => ?_
    split
    next hgranted =>
      refine Triple.acquire hproper hrests fun h hkind hfree => Triple.pure ?_
      exact .inr ⟨hgranted, h, rfl, hkind, hfree, rfl⟩
    next hdenied =>
      exact Triple.pure (.inl ⟨Bool.not_eq_true _ ▸ hdenied, rfl, rfl⟩)
  refine hstep.bind ?_
  rintro ⟨b, o⟩ held (⟨hb, ho, rfl⟩ | ⟨hb, h, ho, hkind, hfree, rfl⟩)
  · obtain rfl : o = none := ho
    exact hno b hb
  · obtain rfl : o = some h := ho
    exact hyes b h hb hkind hfree

/-! ### The world -/

omit [DecidableEq κ]

/-- In a world that satisfies `pre` the program has a result and leaves a world that satisfy
`post`. -/
def Ensures (pre : ω → Prop) (prog : Own κ υ ω α) (post : α → ω → Prop) : Prop :=
  ∀ s, pre s.2 → post (prog s).1 (prog s).2.2

variable {pre : ω → Prop} {post : α → ω → Prop}

theorem Ensures.pure {a : α} (h : ∀ w, pre w → post a w) :
    Ensures pre (Pure.pure a : Own κ υ ω α) post := fun s hs => h s.2 hs

theorem Ensures.bind (mid : β → ω → Prop) {prog : Own κ υ ω β} {k : β → Own κ υ ω α}
    (hprog : Ensures pre prog mid) (hk : ∀ b, Ensures (mid b) (k b) post) :
    Ensures pre (prog >>= k) post := fun s hs => hk _ _ (hprog s hs)

/-- A question that leaves the world as it is wanted. -/
theorem Ensures.ask_keeps {question : ω → β × ω} {k : β → Own κ υ ω α}
    (hkeeps : ∀ w, pre w → pre (question w).2) (hk : ∀ b, Ensures pre (k b) post) :
    Ensures pre (Ownership.ask question >>= k) post :=
  fun s hs => hk _ (s.1, (question s.2).2) (hkeeps s.2 hs)

theorem Ensures.acquire {kind : κ} {k : Handle κ → Own κ υ ω α}
    (hk : ∀ h : Handle κ, h.kind = kind → Ensures pre (k h) post) :
    Ensures pre (Ownership.acquire kind >>= k) post := fun s hs => hk ⟨kind, s.1.length⟩ rfl _ hs

theorem Ensures.use {k : Unit → Own κ υ ω α} (hk : Ensures pre (k ()) post) :
    Ensures pre (Ownership.use h how >>= k) post := fun _ hs => hk _ hs

theorem Ensures.release {k : Unit → Own κ υ ω α} (hk : Ensures pre (k ()) post) :
    Ensures pre (Ownership.release h >>= k) post := fun _ hs => hk _ hs

theorem Ensures.imp {post' : α → ω → Prop} {prog : Own κ υ ω α} (hprog : Ensures pre prog post)
    (hpost : ∀ a w, post a w → post' a w) : Ensures pre prog post' :=
  fun s hs => hpost _ _ (hprog s hs)

theorem Ensures.map {prog : Own κ υ ω β} {f : β → α} (h : Ensures pre prog fun b w => post (f b) w) :
    Ensures pre (f <$> prog) post := h

theorem Ensures.conseq {pre' : ω → Prop} {post' : α → ω → Prop} {prog : Own κ υ ω α}
    (hprog : Ensures pre prog post) (hpre : ∀ w, pre' w → pre w)
    (hpost : ∀ a w, post a w → post' a w) : Ensures pre' prog post' :=
  fun s hs => hpost _ _ (hprog s (hpre _ hs))

variable [DecidableEq κ]

/-! ### Objects -/

/-- What holds of every object still does when one has been replaced. -/
theorem forall_set {objects : List σ} {i : Nat} {next : σ} {Good : Nat → σ → Prop}
    (h : ∀ (j : Nat) (o : σ), objects[j]? = some o → Good j o) (hnext : Good i next) :
    ∀ (j : Nat) (o : σ), (objects.set i next)[j]? = some o → Good j o := by
  intro j o ho
  by_cases hj : i = j
  · subst hj
    rw [List.getElem?_set] at ho
    split at ho
    · split at ho
      · exact Option.some.inj ho ▸ hnext
      · cases ho
    · exact h i o ho
  · rw [List.getElem?_set_ne hj] at ho
    exact h j o ho

/-- A program is run for one of many objects, and the others keep what they own, and so does what
is beside them. -/
theorem Triple.at_set_beside {owned : σ → Multiset (Handle κ)} {objects : List σ} {i : Nat}
    {object : σ} {prog : Own κ υ ω α} {next : α → σ} (s : List (Op κ υ) × ω) {Good : α → Prop}
    (hi : objects[i]? = some object)
    (hprog : Triple C (owned object) prog fun a held => held = owned (next a) ∧ Good a)
    (hclosed : ∀ (j : Nat) (o : σ), objects[j]? = some o → Closed C (owned o))
    (hE : Closed C E) (hlog : Owns C s.1 (E + (objects.map owned).sum)) :
    Owns C (prog s).2.1 (E + ((objects.set i (next (prog s).1)).map owned).sum) ∧
      Good (prog s).1 := by
  obtain ⟨hlt, hget⟩ := List.getElem?_eq_some_iff.mp hi
  have hself : objects.set i object = objects := by rw [← hget, List.set_getElem_self]
  rw [← hself, sum_set hlt, ← add_assoc] at hlog
  have hothers : Closed C ((objects.eraseIdx i).map owned).sum :=
    closed_sum fun o ho => by
      obtain ⟨j, hj⟩ := List.mem_iff_getElem?.mp (List.mem_of_mem_eraseIdx ho)
      exact hclosed j o hj
  obtain ⟨held, ⟨rfl, hgood⟩, hlog'⟩ := hprog _ s (hE.add hothers) hlog
  rw [sum_set hlt, ← add_assoc]
  exact ⟨hlog', hgood⟩

/-- A program is run for one of many objects, and the others keep what they own. -/
theorem Triple.at_set {owned : σ → Multiset (Handle κ)} {objects : List σ} {i : Nat} {object : σ}
    {prog : Own κ υ ω α} {next : α → σ} (s : List (Op κ υ) × ω) {Good : α → Prop}
    (hi : objects[i]? = some object)
    (hprog : Triple C (owned object) prog fun a held => held = owned (next a) ∧ Good a)
    (hclosed : ∀ (j : Nat) (o : σ), objects[j]? = some o → Closed C (owned o))
    (hlog : Owns C s.1 (objects.map owned).sum) :
    Owns C (prog s).2.1 ((objects.set i (next (prog s).1)).map owned).sum ∧
      Good (prog s).1 := by
  rw [← zero_add (objects.map owned).sum] at hlog
  have h := hprog.at_set_beside s hi hclosed closed_zero hlog
  rwa [zero_add] at h

/-- A program that makes a new object leaves all others what they own. -/
theorem Triple.at_concat {owned : σ → Multiset (Handle κ)} {objects : List σ}
    {prog : Own κ υ ω α} {next : α → List σ} (s : List (Op κ υ) × ω) {Good : α → Prop}
    (hprog : Triple C 0 prog fun a held => held = ((next a).map owned).sum ∧ Good a)
    (hclosed : ∀ (j : Nat) (o : σ), objects[j]? = some o → Closed C (owned o))
    (hlog : Owns C s.1 (objects.map owned).sum) :
    Owns C (prog s).2.1 ((objects ++ next (prog s).1).map owned).sum ∧ Good (prog s).1 := by
  have hothers : Closed C (objects.map owned).sum := closed_sum fun o ho => by
    obtain ⟨j, hj⟩ := List.mem_iff_getElem?.mp ho
    exact hclosed j o hj
  rw [← add_zero (objects.map owned).sum] at hlog
  obtain ⟨held, ⟨rfl, hgood⟩, hlog'⟩ := hprog _ s hothers hlog
  rw [List.map_append, List.sum_append]
  exact ⟨hlog', hgood⟩

/-- A program that needs nothing and leaves nothing leaves all objects what they own. -/
theorem Triple.at_rest (s : List (Op κ υ) × ω) {prog : Own κ υ ω α}
    (hprog : Triple C 0 prog fun _ held => held = 0) (hclosed : Closed C held)
    (hlog : Owns C s.1 held) : Owns C (prog s).2.1 held := by
  rw [← add_zero held] at hlog
  obtain ⟨held', rfl, hlog'⟩ := hprog _ s hclosed hlog
  rwa [add_zero] at hlog'

end Ownership
