import TernaryGossip.Gossip.Seen

/-! # What a bounded memory holds

    Entries come into a memory by `put` alone.  Looking an entry up moves
    it to the front, and making room forgets entries, but neither makes
    one up. -/

namespace TernaryGossip

namespace Recent

variable {κ ν : Type} [DecidableEq κ]

theorem mem_of_find? {r : Recent κ ν} {k : κ} {v : ν} (h : r.find? k = some v) :
    (k, v) ∈ r.entries := by
  unfold find? at h
  cases hf : r.entries.find? fun e => e.1 = k with
  | none => rw [hf] at h; cases h
  | some e =>
    rw [hf] at h
    have hk : e.1 = k := by simpa using List.find?_some hf
    have hv : e.2 = v := Option.some.inj h
    rw [← hk, ← hv]
    exact List.mem_of_find?_eq_some hf

theorem exists_of_contains {r : Recent κ ν} {k : κ} (h : r.contains k = true) :
    ∃ v, (k, v) ∈ r.entries := by
  obtain ⟨v, hv⟩ := Option.isSome_iff_exists.mp h
  exact ⟨v, mem_of_find? hv⟩

theorem not_contains_of_find? {r : Recent κ ν} {k : κ} (h : r.find? k = none) :
    r.contains k = false := by
  rw [contains, h, Option.isSome_none]

theorem mem_of_mem_put {r : Recent κ ν} {k : κ} {v : ν} {e : κ × ν}
    (h : e ∈ (r.put k v).entries) : e = (k, v) ∨ e ∈ r.entries := by
  rcases List.mem_cons.mp (List.mem_of_mem_take h) with h | h
  · exact .inl h
  · exact .inr (List.mem_filter.mp h).1

theorem contains_put_self {r : Recent κ ν} (hroom : 0 < r.capacity) (k : κ) (v : ν) :
    (r.put k v).contains k = true := by
  -- the new entry stands in front, so making room spares it
  obtain ⟨capacity, hcapacity⟩ : ∃ capacity, r.capacity = capacity + 1 := ⟨r.capacity - 1, by omega⟩
  simp [contains, find?, put, hcapacity]

theorem mem_of_mem_touch? {r : Recent κ ν} {k : κ} {e : κ × ν}
    (h : e ∈ (r.touch? k).2.entries) : e ∈ r.entries := by
  unfold touch? at h
  split at h
  · next v hv =>
    rcases List.mem_cons.mp h with rfl | h
    · exact mem_of_find? hv
    · exact (List.mem_filter.mp h).1
  · exact h

@[simp] theorem touch?_fst (r : Recent κ ν) (k : κ) : (r.touch? k).1 = r.find? k := by
  unfold touch?
  split <;> simp_all

end Recent

namespace Seen

@[simp] theorem count_hashes (s : Seen) (hit : Bool) : (s.count hit).hashes = s.hashes := by
  unfold count
  extract_lets hits misses
  split <;> rfl

@[simp] theorem count_packets (s : Seen) (hit : Bool) : (s.count hit).packets = s.packets := by
  unfold count
  extract_lets hits misses
  split <;> rfl

@[simp] theorem lookupPacket_fst (s : Seen) (digest : Bytes) :
    (s.lookupPacket digest).1 = s.packets.find? digest := by
  simp [lookupPacket]

@[simp] theorem lookupPacket_hashes (s : Seen) (digest : Bytes) :
    (s.lookupPacket digest).2.hashes = s.hashes := by
  simp [lookupPacket]

theorem mem_of_mem_lookupPacket {s : Seen} {digest : Bytes} {e : Bytes × Hash}
    (h : e ∈ (s.lookupPacket digest).2.packets.entries) : e ∈ s.packets.entries := by
  simp only [lookupPacket, count_packets] at h
  exact Recent.mem_of_mem_touch? h

theorem mem_of_mem_insertHash {s : Seen} {h : Hash} {e : Hash × Unit}
    (he : e ∈ (s.insertHash h).2.hashes.entries) : e.1 = h ∨ e ∈ s.hashes.entries := by
  rcases Recent.mem_of_mem_put he with rfl | he
  · exact .inl rfl
  · exact .inr he

end Seen

end TernaryGossip
