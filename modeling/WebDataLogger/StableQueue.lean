import Mathlib.Data.List.Pairwise
import Mathlib.Order.Basic
import Mathlib.Order.Defs.LinearOrder
import Mathlib.Order.Lattice

/-!
# Queues ordered by a key

An entry goes behind all entries whose key is not larger. The queue stays ordered, and
entries of one key stay in the order in which they came, so that for each key the queue
shows the history of its insertions.
-/

namespace WebDataLogger.StableQueue

variable {α β κ ν : Type*} [LinearOrder κ] [LinearOrder ν] (key : α → κ)

/-- The keys do not decrease along the queue. -/
def Ordered (queue : List α) : Prop := queue.Pairwise (fun a b => key a≤key b)

/-- An entry goes before the first one with a larger key. -/
def enqueue (a : α) : List α → List α
  | [] => [a]
  | b::queue => if key b≤key a then b::enqueue a queue else a::b::queue

/-- The entries of a queue after an insertion. -/
theorem mem_enqueue {a b : α} {queue : List α} : b∈enqueue key a queue ↔ b=a ∨ b∈queue := by
  induction queue with
  | nil => simp [enqueue]
  | cons c queue ih =>
    unfold enqueue
    split
    · rw [List.mem_cons,ih,List.mem_cons]
      exact or_left_comm
    · rw [List.mem_cons]

/-- An insertion adds one entry. -/
theorem enqueue_perm (a : α) (queue : List α) : (enqueue key a queue).Perm (a::queue) := by
  induction queue with
  | nil => exact List.Perm.refl _
  | cons b queue ih =>
    unfold enqueue
    split
    · exact (ih.cons b).trans (List.Perm.swap a b queue)
    · exact List.Perm.refl _

/-- An insertion keeps the order. -/
theorem Ordered.enqueue {queue : List α} (h : Ordered key queue) (a : α) :
    Ordered key (enqueue key a queue) := by
  induction queue with
  | nil => exact List.pairwise_singleton _ a
  | cons c queue ih =>
    obtain ⟨hhead,htail⟩ := List.pairwise_cons.mp h
    unfold StableQueue.enqueue
    split
    next hle =>
      refine List.pairwise_cons.mpr ⟨fun b hb => ?_,ih htail⟩
      rcases (mem_enqueue key).mp hb with rfl|hb
      · exact hle
      · exact hhead b hb
    next hlt =>
      have hca := (not_le.mp hlt).le
      refine List.pairwise_cons.mpr ⟨fun b hb => ?_,h⟩
      rcases List.mem_cons.mp hb with rfl|hb
      · exact hca
      · exact hca.trans (hhead b hb)

/-- Entries of one key stay in the order of their insertions. -/
theorem filter_enqueue {queue : List α} (h : Ordered key queue) (a : α) (k : κ) :
    (enqueue key a queue).filter (fun b => key b=k)=
      (queue++[a]).filter (fun b => key b=k) := by
  induction queue with
  | nil => rfl
  | cons c queue ih =>
    obtain ⟨hhead,htail⟩ := List.pairwise_cons.mp h
    unfold enqueue
    split
    next hle =>
      rw [List.filter_cons,ih htail,List.cons_append,List.filter_cons]
    next hlt =>
      -- All entries from here on have larger keys, so that `a` is the only one of its key.
      have hlarger : ∀ b∈c::queue, key a<key b := by
        intro b hb
        rcases List.mem_cons.mp hb with rfl|hb
        · exact not_le.mp hlt
        · exact (not_le.mp hlt).trans_le (hhead b hb)
      by_cases hk : key a=k
      · have hnone : (c::queue).filter (fun b => key b=k)=[] := by
          rw [List.filter_eq_nil_iff]
          intro b hb
          simpa using (hk▸hlarger b hb).ne'
        rw [List.filter_append,hnone,List.filter_cons_of_pos (by simpa using hk),hnone]
        simp [hk]
      · rw [List.filter_append,List.filter_cons_of_neg (by simpa using hk)]
        simp [hk]

/-- An entry whose key is not below any other goes to the end. -/
theorem enqueue_of_le {queue : List α} {a : α} (h : ∀ b∈queue, key b≤key a) :
    enqueue key a queue=queue++[a] := by
  induction queue with
  | nil => rfl
  | cons c queue ih =>
    rw [enqueue,if_pos (h c List.mem_cons_self),
      ih (fun b hb => h b (List.mem_cons_of_mem c hb)),List.cons_append]

/-- A map that keeps the order of the keys commutes with insertion. -/
theorem map_enqueue {key' : β → ν} {f : α → β} {queue : List α} {a : α}
    (h : ∀ b∈queue, key b≤key a ↔ key' (f b)≤key' (f a)) :
    (enqueue key a queue).map f=enqueue key' (f a) (queue.map f) := by
  induction queue with
  | nil => rfl
  | cons c queue ih =>
    have hhead := h c List.mem_cons_self
    have htail := ih (fun b hb => h b (List.mem_cons_of_mem c hb))
    rw [List.map_cons,enqueue,enqueue]
    by_cases hle : key c≤key a
    · rw [if_pos hle,if_pos (hhead.mp hle),List.map_cons,htail]
    · rw [if_neg hle,if_neg (fun h' => hle (hhead.mpr h')),List.map_cons,List.map_cons]

end WebDataLogger.StableQueue
