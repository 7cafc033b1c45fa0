/-
Esp32Mod/Mailbox.lean

Drop-newest mailboxes: a ring with a counter of the items it had to refuse, and
the ledger that says what such a mailbox is for.

A `Mailbox` refuses an item when its ring is full and counts the refusal in a
32-bit counter that stops at its maximum.  A `Ledger` is the abstract view: the
list of everything ever accepted, how many of these have been handed out, and how
often an item was refused.  It knows neither slots nor counters.

`Mailbox.Tracks m l` connects the two.  `Tracks.post` and `Tracks.take` are the
step lemmas: both sides give the same answer and stay related.

`QueueOps` is the interface both sides offer to a client: post a request, take an
item.  `QueueOps.simulation` lifts step lemmas to request sequences of any length,
and `tracks_ledger` starts it from an arbitrary mailbox, whatever its counters are.
-/
import Esp32Mod.RingBuffer

namespace RingBuffer

/-! ### Saturating counters -/

/-- Increment unless the counter is at its maximum. -/
def bumpSaturating (n : UInt32) : UInt32 := if n = 0xFFFFFFFF then n else n + 1

theorem toNat_bumpSaturating (n : UInt32) :
    (bumpSaturating n).toNat = min (n.toNat + 1) (2 ^ 32 - 1) := by
  have hn := n.toNat_lt
  by_cases h : n = 0xFFFFFFFF
  · subst h; rfl
  · have hne : n.toNat ≠ 4294967295 := fun he => h (UInt32.toNat_inj.mp he)
    rw [bumpSaturating, if_neg h, UInt32.toNat_add, UInt32.toNat_one]
    omega

/-! ### Mailboxes and ledgers -/

/-- A ring and the number of items it refused. -/
structure Mailbox (α : Type*) (c : Capacity) where
  ring : Ring α c
  dropped : UInt32

/-- What a mailbox has accepted, how much of it is handed out, and how often it refused. -/
structure Ledger (α : Type*) where
  accepted : List α
  taken : Nat
  refused : Nat

namespace Mailbox

variable {α : Type*} {c : Capacity}

/-- Store `x`, or count it as dropped when the ring is full. -/
def post (m : Mailbox α c) (x : α) : Bool × Mailbox α c :=
  if h : c.size ≤ m.ring.put - m.ring.get then
    (false, { m with dropped := bumpSaturating m.dropped })
  else (true, { m with ring := m.ring.push x h })

/-- Hand out the oldest item. -/
def take (m : Mailbox α c) : Option (α × Mailbox α c) :=
  m.ring.take.map fun p => (p.1, { m with ring := p.2 })

/-- The ledger a mailbox starts from: its content is accepted and not yet handed out. -/
def ledger (m : Mailbox α c) : Ledger α where
  accepted := m.ring.contents
  taken := 0
  refused := m.dropped.toNat

end Mailbox

namespace Ledger

variable {α : Type*}

/-- The number of accepted items that are not handed out yet. -/
def untaken (l : Ledger α) : Nat := l.accepted.length - l.taken

/-- Accept `x` unless `n` accepted items are still untaken. -/
def post (n : Nat) (l : Ledger α) (x : α) : Bool × Ledger α :=
  if l.untaken < n then (true, { l with accepted := l.accepted ++ [x] })
  else (false, { l with refused := l.refused + 1 })

/-- Hand out the next accepted item. -/
def take (l : Ledger α) : Option (α × Ledger α) :=
  l.accepted[l.taken]?.map fun x => (x, { l with taken := l.taken + 1 })

end Ledger

/-! ### The mailbox refines the ledger -/

/-- The mailbox holds exactly the untaken items of the ledger, and its drop
counter is the ledger's number of refusals, saturated. -/
structure Mailbox.Tracks {α : Type*} {c : Capacity} (m : Mailbox α c) (l : Ledger α) : Prop where
  taken_le : l.taken ≤ l.accepted.length
  contents : m.ring.contents = l.accepted.drop l.taken
  dropped : m.dropped.toNat = min l.refused (2 ^ 32 - 1)

namespace Mailbox

variable {α : Type*} {c : Capacity} {m : Mailbox α c} {l : Ledger α}

theorem tracks_ledger (m : Mailbox α c) : m.Tracks m.ledger where
  taken_le := Nat.zero_le _
  contents := rfl
  dropped := (Nat.min_eq_left (Nat.le_pred_of_lt m.dropped.toNat_lt)).symm

theorem Tracks.length_contents (h : m.Tracks l) : m.ring.contents.length = l.untaken := by
  rw [h.contents, List.length_drop, Ledger.untaken]

theorem post_of_lt (x : α) (h : m.ring.contents.length < c.size.toNat) :
    (m.post x).1 = true ∧ (m.post x).2.ring.contents = m.ring.contents ++ [x] ∧
      (m.post x).2.dropped = m.dropped := by
  have hnot : ¬ c.size ≤ m.ring.put - m.ring.get :=
    fun hle => Nat.ne_of_lt h (m.ring.full_iff.mp hle)
  rw [post, dif_neg hnot]
  exact ⟨rfl, m.ring.contents_push x hnot, rfl⟩

theorem post_of_full (x : α) (h : m.ring.contents.length = c.size.toNat) :
    m.post x = (false, { m with dropped := bumpSaturating m.dropped }) :=
  dif_pos (m.ring.full_iff.mpr h)

/-- A post gets the ledger's answer and keeps the mailbox related to it. -/
theorem Tracks.post (h : m.Tracks l) (x : α) :
    (m.post x).1 = (l.post c.size.toNat x).1 ∧ (m.post x).2.Tracks (l.post c.size.toNat x).2 := by
  have hlen := h.length_contents
  by_cases hroom : l.untaken < c.size.toNat
  · obtain ⟨hstored, hcontents, hdropped⟩ := m.post_of_lt x (hlen ▸ hroom)
    rw [Ledger.post, if_pos hroom]
    refine ⟨hstored, ?_, ?_, ?_⟩
    · exact h.taken_le.trans (by simp)
    · rw [hcontents, h.contents, List.drop_append_of_le_length h.taken_le]
    · rw [hdropped, h.dropped]
  · have hfull : m.ring.contents.length = c.size.toNat :=
      Nat.le_antisymm m.ring.length_contents_le (hlen ▸ Nat.le_of_not_lt hroom)
    rw [post_of_full x hfull, Ledger.post, if_neg hroom]
    refine ⟨rfl, h.taken_le, h.contents, ?_⟩
    show (bumpSaturating m.dropped).toNat = min (l.refused + 1) (2 ^ 32 - 1)
    rw [toNat_bumpSaturating, h.dropped]
    omega

theorem take_eq_none_iff (m : Mailbox α c) : m.take = none ↔ m.ring.contents = [] := by
  rw [take, Option.map_eq_none_iff, m.ring.take_eq_none_iff]

theorem contents_of_take {m' : Mailbox α c} {x : α} (h : m.take = some (x, m')) :
    m.ring.contents = x :: m'.ring.contents ∧ m'.dropped = m.dropped := by
  obtain ⟨⟨y, r'⟩, hr, he⟩ := Option.map_eq_some_iff.mp h
  obtain ⟨rfl, rfl⟩ := Prod.mk.inj he
  exact ⟨Ring.contents_of_take hr, rfl⟩

/-- A take reports empty together with the ledger, and otherwise hands out the
same item and keeps the mailbox related to it. -/
theorem Tracks.take (h : m.Tracks l) :
    (m.take = none ∧ l.take = none) ∨
      ∃ x m' l', m.take = some (x, m') ∧ l.take = some (x, l') ∧ m'.Tracks l' := by
  rcases hm : m.take with - | ⟨x, m'⟩
  · have hnil := h.contents ▸ m.take_eq_none_iff.mp hm
    refine .inl ⟨rfl, ?_⟩
    rw [Ledger.take, List.getElem?_eq_none (List.drop_eq_nil_iff.mp hnil), Option.map_none]
  · obtain ⟨hcontents, hdropped⟩ := contents_of_take hm
    have hdrop : l.accepted.drop l.taken = x :: m'.ring.contents := h.contents ▸ hcontents
    have hlt : l.taken < l.accepted.length := by
      by_contra hge
      rw [List.drop_eq_nil_of_le (Nat.le_of_not_lt hge)] at hdrop
      cases hdrop
    rw [List.drop_eq_getElem_cons hlt] at hdrop
    obtain ⟨hx, hrest⟩ := List.cons.inj hdrop
    refine .inr ⟨x, m', { l with taken := l.taken + 1 }, rfl, ?_, hlt, hrest.symm, ?_⟩
    · rw [Ledger.take, List.getElem?_eq_getElem hlt, hx, Option.map_some]
    · rw [hdropped, h.dropped]

/-! ### Copy loops -/

/-- Post items in order, whatever becomes of each. -/
def postAll (xs : List α) (m : Mailbox α c) : Mailbox α c :=
  xs.foldl (fun m x => (m.post x).2) m

end Mailbox

/-- Offer items in order. -/
def Ledger.postAll {α : Type*} (n : Nat) (xs : List α) (l : Ledger α) : Ledger α :=
  xs.foldl (fun l x => (l.post n x).2) l

namespace Mailbox

variable {α : Type*} {c : Capacity} {m : Mailbox α c} {l : Ledger α}

theorem Tracks.postAll (h : m.Tracks l) (xs : List α) :
    (m.postAll xs).Tracks (l.postAll c.size.toNat xs) := by
  induction xs generalizing m l with
  | nil => exact h
  | cons x xs ih => exact ih (h.post x).2

/-- Taking up to `n` items hands out the next ones of the ledger. -/
theorem Tracks.drain (h : m.Tracks l) (n : Nat) :
    (⟨(Ring.drain n m.ring).2, m.dropped⟩ : Mailbox α c).Tracks
      { l with taken := l.taken + (Ring.drain n m.ring).1.length } := by
  have hle := h.taken_le
  have hlen := h.length_contents
  rw [Ledger.untaken] at hlen
  refine ⟨?_, ?_, h.dropped⟩
  · simp only [Ring.drain_fst, List.length_take]
    omega
  · simp only [Ring.contents_drain, Ring.drain_fst, List.length_take]
    rw [← List.drop_drop, ← h.contents]
    rcases Nat.le_total n m.ring.contents.length with hn | hn
    · rw [Nat.min_eq_left hn]
    · rw [Nat.min_eq_right hn, List.drop_length, List.drop_eq_nil_of_le hn]

end Mailbox

/-! ### Client sequences -/

/-- A queue as its client sees it, over states `σ`: requests `ρ` are posted, and
items are taken in the form `ο`. -/
structure QueueOps (ρ ο σ : Type*) where
  post : ρ → σ → Bool × σ
  take : σ → Option (ο × σ)

/-- An operation of a client that posts requests `ρ`. -/
inductive Op (ρ : Type*)
  | post (a : ρ)
  | take

/-- The answer to an operation. -/
inductive Answer (ο : Type*)
  | posted (stored : Bool)
  | took (x : Option ο)

namespace QueueOps

variable {ρ ο σ τ : Type*}

/-- Perform one operation. -/
def perform (q : QueueOps ρ ο σ) (s : σ) : Op ρ → Answer ο × σ
  | .post a => (.posted (q.post a s).1, (q.post a s).2)
  | .take =>
    match q.take s with
    | none => (.took none, s)
    | some (x, s') => (.took (some x), s')

/-- Perform operations in order and collect the answers. -/
def performAll (q : QueueOps ρ ο σ) (s : σ) : List (Op ρ) → List (Answer ο) × σ
  | [] => ([], s)
  | op :: ops =>
    ((q.perform s op).1 :: (q.performAll (q.perform s op).2 ops).1,
      (q.performAll (q.perform s op).2 ops).2)

/-- **Simulation of queues.**  If posts and takes preserve a relation and answer
alike, so do client sequences of any length. -/
theorem simulation (q : QueueOps ρ ο σ) (q' : QueueOps ρ ο τ) (R : σ → τ → Prop)
    (hpost : ∀ s t a, R s t → (q.post a s).1 = (q'.post a t).1 ∧
      R (q.post a s).2 (q'.post a t).2)
    (htake : ∀ s t, R s t → (q.take s = none ∧ q'.take t = none) ∨
      ∃ x s' t', q.take s = some (x, s') ∧ q'.take t = some (x, t') ∧ R s' t')
    {s : σ} {t : τ} (h : R s t) (ops : List (Op ρ)) :
    (q.performAll s ops).1 = (q'.performAll t ops).1 ∧
      R (q.performAll s ops).2 (q'.performAll t ops).2 := by
  induction ops generalizing s t with
  | nil => exact ⟨rfl, h⟩
  | cons op ops ih =>
    have hone : (q.perform s op).1 = (q'.perform t op).1 ∧
        R (q.perform s op).2 (q'.perform t op).2 := by
      cases op with
      | post a => exact ⟨congrArg Answer.posted (hpost s t a h).1, (hpost s t a h).2⟩
      | take =>
        rcases htake s t h with ⟨hs, ht⟩ | ⟨x, s', t', hs, ht, h'⟩
        · simp only [perform, hs, ht, true_and]
          exact h
        · simp only [perform, hs, ht, true_and]
          exact h'
    obtain ⟨hanswers, hlast⟩ := ih hone.2
    exact ⟨congrArg₂ List.cons hone.1 hanswers, hlast⟩

end QueueOps

/-- The item an answer delivers. -/
def Answer.item? {ο : Type*} : Answer ο → Option ο
  | .posted _ => none
  | .took x => x

/-- The ledger as a queue of at most `n` untaken items: `item a` is the item that
request `a` asks to store, if it is a request the queue admits at all, and `out`
is the form in which an item is handed out. -/
def Ledger.ops {ρ α ο : Type*} (n : Nat) (item : ρ → Option α) (out : α → ο) :
    QueueOps ρ ο (Ledger α) where
  post a l :=
    match item a with
    | none => (false, l)
    | some x => l.post n x
  take l := l.take.map fun p => (out p.1, p.2)

namespace Ledger

variable {ρ α ο : Type*} {n : Nat} {item : ρ → Option α} {out : α → ο}

/-- One operation delivers the next accepted item or nothing. -/
theorem delivered_perform (n : Nat) (item : ρ → Option α) (out : α → ο) {l : Ledger α}
    (h : l.taken ≤ l.accepted.length) (op : Op ρ) :
    let r := (Ledger.ops n item out).perform l op
    (l.accepted.take l.taken).map out ++ r.1.item?.toList =
        (r.2.accepted.take r.2.taken).map out ∧
      r.2.taken ≤ r.2.accepted.length := by
  rcases op with a | -
  · rcases ha : item a with - | x
    · simp [QueueOps.perform, Ledger.ops, ha, Answer.item?, h]
    · by_cases hroom : l.untaken < n
      · simp [QueueOps.perform, Ledger.ops, ha, Ledger.post, hroom, Answer.item?,
          List.take_append_of_le_length h, Nat.le_succ_of_le h]
      · simp [QueueOps.perform, Ledger.ops, ha, Ledger.post, hroom, Answer.item?, h]
  · rcases hx : l.accepted[l.taken]? with - | x
    · simp [QueueOps.perform, Ledger.ops, Ledger.take, hx, Answer.item?, h]
    · obtain ⟨hlt, hget⟩ := List.getElem?_eq_some_iff.mp hx
      have htake : l.accepted.take (l.taken + 1) = l.accepted.take l.taken ++ [x] := by
        rw [List.take_succ_eq_append_getElem hlt, hget]
      simp only [QueueOps.perform, Ledger.ops, Ledger.take, hx, Option.map_some, Answer.item?,
        Option.toList_some, htake, List.map_append, List.map_cons, List.map_nil, true_and]
      exact hlt

/-- A ledger hands out what it accepted, each item once and in order: the items
delivered so far and those delivered by `ops` are the first `taken` accepted ones. -/
theorem delivered {l : Ledger α} (h : l.taken ≤ l.accepted.length) (ops : List (Op ρ)) :
    let r := (Ledger.ops n item out).performAll l ops
    (l.accepted.take l.taken).map out ++ r.1.filterMap Answer.item? =
      (r.2.accepted.take r.2.taken).map out := by
  induction ops generalizing l with
  | nil => simp [QueueOps.performAll]
  | cons op ops ih =>
    obtain ⟨hone, hle⟩ := delivered_perform n item out h op
    have hcons (a : Answer ο) (as : List (Answer ο)) :
        (a :: as).filterMap Answer.item? = a.item?.toList ++ as.filterMap Answer.item? := by
      rcases ha : a.item? with - | x <;> simp [ha]
    simp only [QueueOps.performAll, hcons]
    rw [← List.append_assoc, hone]
    exact ih hle

end Ledger

/-! ### Refinement of a bounded FIFO -/

/-- The queue `q` over mailboxes is a bounded FIFO of `n` items: from every mailbox
`m`, every client sequence gets the answers of the ledger, and at its end — hence
after each of its prefixes — the counters tell the truth about the ledger. -/
structure RefinesFifo {ρ α ο : Type*} {c : Capacity} (q : QueueOps ρ ο (Mailbox α c)) (n : Nat)
    (item : ρ → Option α) (out : α → ο) : Prop where
  answers : ∀ m ops, (q.performAll m ops).1 =
    ((Ledger.ops n item out).performAll m.ledger ops).1
  delivered : ∀ m ops, (q.performAll m ops).1.filterMap Answer.item? =
    ((((Ledger.ops n item out).performAll m.ledger ops).2.accepted).take
      ((Ledger.ops n item out).performAll m.ledger ops).2.taken).map out
  bounded : ∀ m ops, (q.performAll m ops).2.ring.count.toNat ≤ n
  pending : ∀ m ops, (q.performAll m ops).2.ring.count.toNat =
    ((Ledger.ops n item out).performAll m.ledger ops).2.untaken
  dropped : ∀ m ops, (q.performAll m ops).2.dropped.toNat =
    min ((Ledger.ops n item out).performAll m.ledger ops).2.refused (2 ^ 32 - 1)

/-- A queue whose post is `Mailbox.post` for the requests it admits and whose take
is `Mailbox.take` refines the bounded FIFO of its capacity. -/
theorem Mailbox.refinesFifo {ρ α ο : Type*} {c : Capacity} {q : QueueOps ρ ο (Mailbox α c)}
    {item : ρ → Option α} {out : α → ο}
    (hpost : ∀ a m, q.post a m = match item a with | none => (false, m) | some x => m.post x)
    (htake : ∀ m, q.take m = m.take.map fun p => (out p.1, p.2)) :
    RefinesFifo q c.size.toNat item out := by
  have hsim (m : Mailbox α c) (ops : List (Op ρ)) :=
    QueueOps.simulation q (Ledger.ops c.size.toNat item out) Mailbox.Tracks
      (fun m l a h => by
        simp only [hpost, Ledger.ops]
        rcases item a with - | x
        · exact ⟨rfl, h⟩
        · exact h.post x)
      (fun m l h => by
        simp only [htake, Ledger.ops]
        rcases h.take with ⟨hm, hl⟩ | ⟨x, m', l', hm, hl, h'⟩
        · exact .inl ⟨by rw [hm]; rfl, by rw [hl]; rfl⟩
        · exact .inr ⟨out x, m', l', by rw [hm]; rfl, by rw [hl]; rfl, h'⟩)
      m.tracks_ledger ops
  refine ⟨fun m ops => (hsim m ops).1, fun m ops => ?_, fun m ops => ?_, fun m ops => ?_,
    fun m ops => (hsim m ops).2.dropped⟩
  · rw [(hsim m ops).1]
    simpa [Mailbox.ledger] using Ledger.delivered (l := m.ledger) (Nat.zero_le _) ops
  · rw [← Ring.length_contents]
    exact Ring.length_contents_le _
  · rw [← Ring.length_contents]
    exact (hsim m ops).2.length_contents

/-! ### What is stored is handed out -/

/-- The operation takes. -/
def Op.isTake {ρ : Type*} : Op ρ → Bool
  | .take => true
  | .post _ => false

/-- What the operation posts, if it posts. -/
def Op.posted? {ρ : Type*} : Op ρ → Option ρ
  | .take => none
  | .post a => some a

namespace Ledger

variable {ρ α ο : Type*} (n : Nat) (item : ρ → Option α) (out : α → ο)

/-- A post appends what it asks to store or nothing; a take hands out the next item if there
is one. -/
theorem perform_cases (l : Ledger α) (op : Op ρ) :
    let l' := ((Ledger.ops n item out).perform l op).2
    (∃ a, op = .post a ∧ l'.taken = l.taken ∧
      (l'.accepted = l.accepted ∨ ∃ x, item a = some x ∧ l'.accepted = l.accepted ++ [x])) ∨
    (op = .take ∧ l'.accepted = l.accepted ∧
      (l'.taken = l.taken + 1 ∨ l.accepted.length ≤ l.taken ∧ l'.taken = l.taken)) := by
  cases op with
  | post a =>
    refine .inl ⟨a, rfl, ?_⟩
    simp only [QueueOps.perform, Ledger.ops]
    cases item a with
    | none => exact ⟨rfl, .inl rfl⟩
    | some x =>
      simp only [Ledger.post]
      split
      · exact ⟨rfl, .inr ⟨x, rfl, rfl⟩⟩
      · exact ⟨rfl, .inl rfl⟩
  | take =>
    refine .inr ⟨rfl, ?_⟩
    simp only [QueueOps.perform, Ledger.ops, Ledger.take]
    cases hx : l.accepted[l.taken]? with
    | none => exact ⟨rfl, .inr ⟨List.getElem?_eq_none_iff.mp hx, rfl⟩⟩
    | some x => exact ⟨rfl, .inl rfl⟩

/-- What is accepted stays accepted, at its place. -/
theorem accepted_performAll (l : Ledger α) (ops : List (Op ρ)) :
    l.accepted <+: ((Ledger.ops n item out).performAll l ops).2.accepted := by
  induction ops generalizing l with
  | nil => exact List.prefix_rfl
  | cons op ops ih =>
    refine List.IsPrefix.trans ?_ (ih _)
    rcases l.perform_cases n item out op with ⟨a, -, -, hsame | ⟨x, -, hx⟩⟩ | ⟨-, hsame, -⟩
    · exact hsame ▸ List.prefix_rfl
    · rw [hx]
      exact List.prefix_append _ _
    · exact hsame ▸ List.prefix_rfl

/-- Only what is posted is accepted. -/
theorem mem_accepted_performAll (l : Ledger α) (ops : List (Op ρ)) {x : α}
    (hx : x ∈ ((Ledger.ops n item out).performAll l ops).2.accepted) :
    x ∈ l.accepted ∨ ∃ a ∈ ops.filterMap Op.posted?, item a = some x := by
  induction ops generalizing l with
  | nil => exact .inl hx
  | cons op ops ih =>
    rcases ih _ hx with hold | ⟨a, ha, hitem⟩
    · rcases l.perform_cases n item out op with ⟨a, rfl, -, hsame | ⟨y, hitem, hy⟩⟩ | ⟨-, hsame, -⟩
      · rw [hsame] at hold
        exact .inl hold
      · rw [hy] at hold
        rcases List.mem_append.mp hold with hold | hnew
        · exact .inl hold
        · obtain rfl := List.mem_singleton.mp hnew
          exact .inr ⟨a, by simp [Op.posted?], hitem⟩
      · rw [hsame] at hold
        exact .inl hold
    · refine .inr ⟨a, ?_, hitem⟩
      rw [List.filterMap_cons]
      split
      · exact ha
      · exact List.mem_cons_of_mem _ ha

/-- As many takes as there are untaken items hand out all of them. -/
theorem taken_performAll (l : Ledger α) (ops : List (Op ρ)) :
    min (l.taken + ops.countP Op.isTake) l.accepted.length ≤
      ((Ledger.ops n item out).performAll l ops).2.taken := by
  induction ops generalizing l with
  | nil => exact Nat.min_le_left _ _
  | cons op ops ih =>
    refine Nat.le_trans ?_ (ih _)
    have hlength := (l.accepted_performAll n item out [op]).length_le
    simp only [QueueOps.performAll] at hlength
    rcases l.perform_cases n item out op with
      ⟨a, rfl, htaken, -⟩ | ⟨rfl, -, htaken | ⟨hnone, htaken⟩⟩
    all_goals
      simp only [List.countP_cons, Op.isTake, Bool.false_eq_true, if_true, if_false]
      omega

/-- Each post adds at most one untaken item. -/
theorem untaken_performAll (l : Ledger α) (ops : List (Op ρ)) :
    ((Ledger.ops n item out).performAll l ops).2.untaken ≤
      l.untaken + (ops.filterMap Op.posted?).length := by
  induction ops generalizing l with
  | nil => exact Nat.le_refl _
  | cons op ops ih =>
    refine Nat.le_trans (ih _) ?_
    rcases l.perform_cases n item out op with
      ⟨a, rfl, htaken, hsame | ⟨x, -, hx⟩⟩ | ⟨rfl, hsame, htaken⟩
    · simp only [untaken, htaken, hsame, List.filterMap_cons, Op.posted?, List.length_cons]
      omega
    · simp only [untaken, htaken, hx, List.filterMap_cons, Op.posted?, List.length_cons,
        List.length_append, List.length_nil]
      omega
    · simp only [untaken, hsame, List.filterMap_cons, Op.posted?]
      omega

end Ledger

namespace QueueOps

variable {ρ ο σ : Type*}

theorem performAll_append (q : QueueOps ρ ο σ) (s : σ) (ops ops' : List (Op ρ)) :
    q.performAll s (ops ++ ops') =
      ((q.performAll s ops).1 ++ (q.performAll (q.performAll s ops).2 ops').1,
        (q.performAll (q.performAll s ops).2 ops').2) := by
  induction ops generalizing s with
  | nil => rfl
  | cons op ops ih =>
    simp only [List.cons_append, performAll, ih]

end QueueOps

namespace RefinesFifo

variable {ρ α ο : Type*} {c : Capacity} {q : QueueOps ρ ο (Mailbox α c)} {n : Nat}
  {item : ρ → Option α} {out : α → ο}

/-- An item that is stored behind `k` others is handed out by the take after `k` others. -/
theorem handed_out (h : RefinesFifo q n item out) {a : ρ} {x : α} (hitem : item a = some x)
    (m : Mailbox α c) (hroom : m.ring.count.toNat < n) (ops : List (Op ρ))
    (htakes : m.ring.count.toNat < ops.countP Op.isTake) :
    ((q.performAll m (.post a :: ops)).1.filterMap Answer.item?)[m.ring.count.toNat]? =
      some (out x) := by
  have hlength : m.ring.contents.length = m.ring.count.toNat := m.ring.length_contents
  let l : Ledger α := ⟨m.ring.contents ++ [x], 0, m.dropped.toNat⟩
  have hl : l.accepted.length = m.ring.count.toNat + 1 := by
    rw [List.length_append, List.length_singleton, hlength]
  have hpost : ((Ledger.ops n item out).performAll m.ledger (.post a :: ops)).2 =
      ((Ledger.ops n item out).performAll l ops).2 := by
    have hone : ((Ledger.ops n item out).perform m.ledger (.post a)).2 = l := by
      simp only [QueueOps.perform, Ledger.ops, hitem, Ledger.post, Ledger.untaken,
        Mailbox.ledger, hlength]
      rw [if_pos (by omega)]
    rw [QueueOps.performAll, hone]
  rw [h.delivered, hpost]
  have htaken := l.taken_performAll n item out ops
  rw [hl, Nat.zero_add] at htaken
  -- the item is accepted at place `count`, and the takes go past it
  have hplace := List.prefix_iff_getElem?.mp
    (l.accepted_performAll n item out ops) m.ring.count.toNat (by omega)
  rw [List.getElem?_map, List.getElem?_take_of_lt (by omega), hplace]
  show some (out (m.ring.contents ++ [x])[m.ring.count.toNat]) = some (out x)
  rw [List.getElem_concat_length hlength.symm]

/-- Each post adds at most one waiting item. -/
theorem count_le (h : RefinesFifo q n item out) (m : Mailbox α c) (ops : List (Op ρ)) :
    (q.performAll m ops).2.ring.count.toNat ≤
      m.ring.count.toNat + (ops.filterMap Op.posted?).length := by
  have huntaken := m.ledger.untaken_performAll n item out ops
  have hstart : m.ledger.untaken = m.ring.count.toNat := m.ring.length_contents
  rw [h.pending]
  omega

end RefinesFifo

end RingBuffer
