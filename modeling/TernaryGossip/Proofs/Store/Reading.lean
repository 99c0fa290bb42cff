import TernaryGossip.Proofs.Trit.HashText
import TernaryGossip.Store.Encoding

/-! # Reading what was written

    A reader reads a byte string as a value if it takes exactly these bytes,
    whatever follows them, and fails on every beginning of them that is cut
    off.  Readers in a row read what was written in a row, so every form of a
    record is read by the reader that has the readers of its parts in the
    same order, and none of its beginnings is mistaken for a smaller record.

    Numbers are read back if they fit their width, and byte strings, texts
    and lists if their lengths fit eight bytes. -/

namespace TernaryGossip.Reader

variable {α β : Type}

/-! ## Two readers in a row -/

/-- Once one reader took its value, the next one reads the rest. -/
theorem bind_of_ok {x : Reader α} {b rest : Bytes} {a : α} (f : α → Reader β)
    (h : x b = .ok (a, rest)) : (x >>= f) b = f a rest := by
  show (x b >>= fun p => f p.1 p.2) = f a rest
  rw [h]
  rfl

theorem bind_of_error {x : Reader α} {b : Bytes} {e : DecodeError} (f : α → Reader β)
    (h : x b = .error e) : (x >>= f) b = .error e := by
  show (x b >>= fun p => f p.1 p.2) = .error e
  rw [h]
  rfl

/-! ## What a reader reads -/

/-- The reader takes the bytes `b` as the value `a`. -/
structure Reads (r : Reader α) (b : Bytes) (a : α) : Prop where
  /-- It leaves what follows. -/
  append : ∀ rest, r (b ++ rest) = .ok (a, rest)
  /-- It fails when they end too soon. -/
  cut : ∀ c, c <+: b → c ≠ b → ∃ e, r c = .error e

namespace Reads

variable {r : Reader α} {b c : Bytes} {a : α}

theorem run_append (h : r.Reads b a) (rest : Bytes) : r.run (b ++ rest) = .ok a := by
  rw [Reader.run, h.append]

theorem run (h : r.Reads b a) : r.run b = .ok a := by
  have hrun := h.run_append []
  rwa [List.append_nil] at hrun

theorem run_cut (h : r.Reads b a) (hbegins : c <+: b) (hne : c ≠ b) : ∃ e, r.run c = .error e := by
  obtain ⟨e, he⟩ := h.cut c hbegins hne
  exact ⟨.record e, by rw [Reader.run, he]⟩

theorem pure (a : α) : Reads (Pure.pure a) [] a where
  append _ := rfl
  cut _ hbegins hne := absurd (List.prefix_nil.mp hbegins) hne

theorem bind {f : α → Reader β} {v : β} (hr : r.Reads b a) (hf : (f a).Reads c v) :
    (r >>= f).Reads (b ++ c) v where
  append rest := by
    rw [List.append_assoc, bind_of_ok f (hr.append (c ++ rest)), hf.append]
  cut s hbegins hne := by
    by_cases hshort : s <+: b ∧ s ≠ b
    · obtain ⟨e, he⟩ := hr.cut s hshort.1 hshort.2
      exact ⟨e, bind_of_error f he⟩
    · -- the first value is whole, so the second one is cut off
      have hwhole : b <+: s := by
        rcases List.prefix_or_prefix_of_prefix hbegins (List.prefix_append b c) with hsb | hbs
        · have heq : s = b := not_not.mp fun h => hshort ⟨hsb, h⟩
          exact ⟨[], by rw [List.append_nil, heq]⟩
        · exact hbs
      obtain ⟨d, rfl⟩ := hwhole
      have hd : d <+: c := (List.prefix_append_right_inj b).mp hbegins
      obtain ⟨e, he⟩ := hf.cut d hd fun h => hne (by rw [h])
      exact ⟨e, by rw [bind_of_ok f (hr.append d), he]⟩

/-- What follows a value and reads nothing more may still turn it down. -/
theorem bind_nil {f : α → Reader β} {v : β} (hr : r.Reads b a) (hf : (f a).Reads [] v) :
    (r >>= f).Reads b v := by
  have h := hr.bind hf
  rwa [List.append_nil] at h

end Reads

/-! ## The forms of values -/

theorem reads_take (b : Bytes) (short : DecodeError) : (take b.length short).Reads b b where
  append rest := take_append rest short rfl
  cut c hbegins hne := by
    have hlt : c.length < b.length :=
      Nat.lt_of_le_of_ne hbegins.length_le fun h => hne (hbegins.eq_of_length h)
    exact ⟨short, if_neg (Nat.not_le_of_lt hlt)⟩

theorem reads_natural {width n : Nat} (hn : n < 256 ^ width) :
    (natural width).Reads (Encoding.natural width n) n where
  append rest := by
    have hmod : n % Nat.pow 256 width = n := Nat.mod_eq_of_lt hn
    rw [natural_append, hmod]
  cut c hbegins hne := by
    have htake := reads_take (Encoding.natural width n) .endOfInput
    rw [Encoding.natural, Bytes.length_littleEndian] at htake
    obtain ⟨e, he⟩ := htake.cut c hbegins hne
    exact ⟨e, bind_of_error _ he⟩

theorem reads_truth (b : Bool) : truth.Reads (Encoding.truth b) b := by
  cases b with
  | false => exact (reads_natural (by decide : 0 < 256 ^ 1)).bind_nil (.pure false)
  | true => exact (reads_natural (by decide : 1 < 256 ^ 1)).bind_nil (.pure true)

theorem reads_blob {b : Bytes} (hlen : b.length < 256 ^ 8) : blob.Reads (Encoding.blob b) b :=
  (reads_natural hlen).bind (reads_take b .endOfInput)

theorem reads_text {s : String} (hlen : s.utf8ByteSize < 256 ^ 8) :
    text.Reads (Encoding.text s) s := by
  rw [← Bytes.length_ofText] at hlen
  refine (reads_natural hlen).bind ((reads_take _ .endOfText).bind_nil ?_)
  rw [Utf8.read_ofText]
  exact .pure s

theorem reads_hash {h : Hash} (hproper : h.Proper) : hash.Reads (Encoding.hash h) h := by
  obtain ⟨cs, htext, hascii, hlen, hread⟩ := hproper.text
  rw [Encoding.hash, htext]
  refine (reads_text ?_).bind_nil ?_
  · rw [hascii.utf8ByteSize_ofList, hlen]
    decide
  · rw [hread]
    exact .pure h

/-! ## Lists -/

theorem reads_times {item : Reader α} {write : α → Bytes} {xs : List α}
    (h : ∀ x ∈ xs, item.Reads (write x) x) :
    (times item xs.length).Reads (xs.flatMap write) xs := by
  induction xs with
  | nil => exact .pure []
  | cons x xs ih =>
    obtain ⟨hx, hxs⟩ := List.forall_mem_cons.mp h
    exact hx.bind ((ih hxs).bind_nil (.pure (x :: xs)))

theorem reads_list {item : Reader α} {write : α → Bytes} {xs : List α}
    (hlen : xs.length < 256 ^ 8) (h : ∀ x ∈ xs, item.Reads (write x) x) :
    (list item).Reads (Encoding.list write xs) xs :=
  (reads_natural hlen).bind (reads_times h)

end TernaryGossip.Reader
