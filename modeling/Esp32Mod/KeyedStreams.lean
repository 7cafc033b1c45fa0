/-
Esp32Mod/KeyedStreams.lean

One stream with many sources: sources come up, emit items into a common stream while they are
live, and end.  A reader of the stream sees only the key of an item.  `Attributed` says that it
can tell the sources apart by it: the items of a key are those of the sources with this key, one
source after the other.

For that no two sources with one key may be live at a time (`Exclusive`).  The rules are those of
what can happen: a source starts, a source emits (and may end), an item comes from elsewhere.
-/
import Mathlib.Data.List.Basic
import Mathlib.Tactic.Common

namespace KeyedStreams

/-- How sources `α` and items `ε` are seen. -/
structure View (α κ ε : Type*) where
  key : α → κ
  emitted : α → List ε
  live : α → Prop
  /-- The key a reader finds in an item. -/
  keyOf : ε → Option κ

namespace View

variable {α κ ε : Type*} {v : View α κ ε} {sources : List α} {stream : List ε} {k : κ} {a b : α}
  {e : ε} {i : Nat}

/-! ### One source of a key at a time -/

/-- Before a source with key `k` starts, those with this key have ended. -/
def Exclusive (v : View α κ ε) (sources : List α) (k : κ) : Prop :=
  sources.Pairwise fun a b => v.key a = k → v.key b = k → ¬ v.live a

/-- A key stays exclusive if none of its sources is live when another one starts. -/
theorem Exclusive.start (h : v.Exclusive sources k)
    (hfree : v.key a = k → ∀ b ∈ sources, v.key b = k → ¬ v.live b) :
    v.Exclusive (sources ++ [a]) k := by
  rw [Exclusive, List.pairwise_append]
  refine ⟨h, List.pairwise_singleton _ _, fun b hb a' ha' hkey hkey' => ?_⟩
  obtain rfl := List.mem_singleton.mp ha'
  exact hfree hkey' b hb hkey

/-- The list around the source at position `i`. -/
theorem split_at (h : sources[i]? = some a) (b : α) :
    ∃ before after, sources = before ++ a :: after ∧ sources.set i b = before ++ b :: after := by
  obtain ⟨hi, rfl⟩ := List.getElem?_eq_some_iff.mp h
  refine ⟨sources.take i, sources.drop (i + 1), ?_, List.set_eq_take_append_cons_drop ▸ ?_⟩
  · rw [← List.drop_eq_getElem_cons hi, List.take_append_drop]
  · rw [if_pos hi]

/-- A source that emits, or ends, leaves its key exclusive. -/
theorem Exclusive.set (h : v.Exclusive sources k) (ha : sources[i]? = some a)
    (hkey : v.key b = v.key a) (hlive : v.live b → v.live a) :
    v.Exclusive (sources.set i b) k := by
  obtain ⟨before, after, rfl, hset⟩ := split_at ha b
  obtain ⟨hbefore, hafter, hcross⟩ := List.pairwise_append.mp h
  obtain ⟨hhead, htail⟩ := List.pairwise_cons.mp hafter
  rw [Exclusive, hset, List.pairwise_append, List.pairwise_cons]
  refine ⟨hbefore, ⟨fun c hc hb hkc hl => ?_, htail⟩, fun c hc d hd hkc hkd => ?_⟩
  · exact hhead c hc (hkey ▸ hb) hkc (hlive hl)
  · rcases List.mem_cons.mp hd with rfl | hd
    · exact hcross c hc a List.mem_cons_self hkc (hkey ▸ hkd)
    · exact hcross c hc d (List.mem_cons_of_mem _ hd) hkc hkd

/-- Where each source has a key of its own, every key is exclusive. -/
theorem exclusive_of_injective (h : sources.Pairwise fun a b => v.key a ≠ v.key b) (k : κ) :
    v.Exclusive sources k :=
  h.imp fun hne ha hb => absurd (ha.trans hb.symm) hne

/-! ### Who has emitted what -/

variable [DecidableEq κ]

/-- The items of a stream with one key. -/
def select (v : View α κ ε) (k : κ) (stream : List ε) : List ε :=
  stream.filter fun e => v.keyOf e = some k

/-- The sources with one key. -/
def sourcesOf (v : View α κ ε) (k : κ) (sources : List α) : List α :=
  sources.filter fun a => v.key a = k

/-- The items with key `k` are those of the sources with this key, one after the other. -/
def Attributed (v : View α κ ε) (sources : List α) (stream : List ε) (k : κ) : Prop :=
  v.select k stream = (v.sourcesOf k sources).flatMap v.emitted

theorem select_append (xs ys : List ε) :
    v.select k (xs ++ ys) = v.select k xs ++ v.select k ys :=
  List.filter_append ..

theorem sourcesOf_append (xs ys : List α) :
    v.sourcesOf k (xs ++ ys) = v.sourcesOf k xs ++ v.sourcesOf k ys :=
  List.filter_append ..

theorem select_singleton (e : ε) :
    v.select k [e] = if v.keyOf e = some k then [e] else [] := by
  by_cases h : v.keyOf e = some k
  · rw [if_pos h]
    exact List.filter_cons_of_pos (decide_eq_true h)
  · rw [if_neg h]
    exact List.filter_cons_of_neg fun hd => h (of_decide_eq_true hd)

theorem sourcesOf_singleton (a : α) :
    v.sourcesOf k [a] = if v.key a = k then [a] else [] := by
  by_cases h : v.key a = k
  · rw [if_pos h]
    exact List.filter_cons_of_pos (decide_eq_true h)
  · rw [if_neg h]
    exact List.filter_cons_of_neg fun hd => h (of_decide_eq_true hd)

theorem sourcesOf_eq_nil (h : ∀ a ∈ sources, v.key a ≠ k) : v.sourcesOf k sources = [] :=
  List.filter_eq_nil_iff.mpr fun a ha hkey => h a ha (of_decide_eq_true hkey)

/-! ### A source starts -/

theorem Attributed.start (h : v.Attributed sources stream k) (hnew : v.emitted a = []) :
    v.Attributed (sources ++ [a]) stream k := by
  have hnothing : (v.sourcesOf k [a]).flatMap v.emitted = [] := by
    rw [sourcesOf_singleton]
    split
    · rw [List.flatMap_singleton, hnew]
    · rfl
  rw [Attributed, sourcesOf_append, List.flatMap_append, hnothing, List.append_nil]
  exact h

/-! ### A source emits -/

/-- **A live source emits.**  It is the last one with its key, so that its item comes last. -/
theorem Attributed.emit (h : v.Attributed sources stream k) (hexclusive : v.Exclusive sources k)
    (ha : sources[i]? = some a) (hlive : v.live a) (hkey : v.key b = v.key a)
    (hemits : v.emitted b = v.emitted a ++ [e]) (he : v.keyOf e = some (v.key a)) :
    v.Attributed (sources.set i b) (stream ++ [e]) k := by
  obtain ⟨before, after, rfl, hset⟩ := split_at ha b
  rw [Attributed, hset, select_append, select_singleton, he, h, sourcesOf_append, sourcesOf_append,
    ← List.singleton_append, ← List.singleton_append (x := b), sourcesOf_append, sourcesOf_append,
    sourcesOf_singleton, sourcesOf_singleton, hkey]
  by_cases hk : v.key a = k
  · have hlast : v.sourcesOf k after = [] := by
      refine sourcesOf_eq_nil fun c hc hkc => ?_
      have hafter := (List.pairwise_cons.mp (List.pairwise_append.mp hexclusive).2.1).1
      exact hafter c hc hk hkc hlive
    simp only [hk, if_true, hlast, List.append_nil, List.flatMap_append, List.flatMap_singleton,
      hemits, List.append_assoc]
  · simp only [hk, if_false, List.nil_append, List.append_nil, Option.some.injEq]

/-! ### Something else comes in -/

theorem Attributed.other (h : v.Attributed sources stream k) (he : v.keyOf e ≠ some k) :
    v.Attributed sources (stream ++ [e]) k := by
  rw [Attributed, select_append, select_singleton, if_neg he, List.append_nil]
  exact h

/-! ### Keys of their own -/

/-- Where each source has a key of its own, the items with the key of a source are its own. -/
theorem Attributed.select_eq (h : v.Attributed sources stream (v.key a))
    (hkeys : sources.Pairwise fun a b => v.key a ≠ v.key b) (ha : a ∈ sources) :
    v.select (v.key a) stream = v.emitted a := by
  obtain ⟨before, after, rfl⟩ := List.append_of_mem ha
  obtain ⟨-, hafter, hcross⟩ := List.pairwise_append.mp hkeys
  have hhead := (List.pairwise_cons.mp hafter).1
  rw [h, sourcesOf_append, ← List.singleton_append, sourcesOf_append, sourcesOf_singleton,
    if_pos rfl, sourcesOf_eq_nil fun b hb => hcross b hb a List.mem_cons_self,
    sourcesOf_eq_nil fun b hb => (hhead b hb).symm]
  simp only [List.nil_append, List.append_nil, List.flatMap_singleton]

end View

end KeyedStreams
