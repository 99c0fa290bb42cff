import Mathlib.Data.Set.Function
import TernaryGossip.Json.Hash
import TernaryGossip.Proofs.Json.QuotedText
import TernaryGossip.Proofs.Store.Reading
import TernaryGossip.Proofs.Transaction.Vouched
import TernaryGossip.Proofs.Trit.TryteText

/-! # Names of hashes

    A text of 81 trytes names one hash, and every hash that packs 243
    balanced trits has one name: between the two, texts and hashes correspond
    one to one.  The name is what is written wherever a hash leaves memory.
    In JSON it stands between quotes as it is, since no tryte is escaped; in
    a stored record its length stands in front.  Both are read as the hash. -/

namespace TernaryGossip.Hash

/-! ## Names in JSON -/

/-- No tryte is escaped. -/
theorem flatMap_escape_trytes {cs : List Char} (h : ∀ c ∈ cs, c ∈ Tryte.alphabet) :
    cs.flatMap Json.escape = cs := by
  have hall : Tryte.alphabet.all (fun c => Json.escape c == [c]) = true := by decide
  induction cs with
  | nil => rfl
  | cons c cs ih =>
    obtain ⟨hc, hcs⟩ := List.forall_mem_cons.mp h
    rw [List.flatMap_cons, ih hcs, beq_iff_eq.mp (List.all_eq_true.mp hall c hc)]
    rfl

/-- A name is quoted as it is. -/
theorem quote_of_isText {text : String} (h : IsText text) :
    Json.quote text = "\"" ++ text ++ "\"" := by
  rw [Json.quote, flatMap_escape_trytes h.2, String.ofList_toList]

/-- A quoted text is read as the hash that it names, if it names one. -/
theorem ofJsonText?_quote (text : String) : ofJsonText? (Json.quote text) = some (ofTrytes text) := by
  rw [ofJsonText?, Json.parse?_quote]
  rfl

/-! ## One hash -/

/-- The hash packs these trits, and each form that it is written in is read
    as the hash. -/
structure Named (h : Hash) (ts : Trits) : Prop where
  /-- Its trits are these. -/
  trits : h.trits = .ok ts
  /-- All of its bytes are packed groups. -/
  valid : h.Valid
  /-- Its text is a name. -/
  isText : IsText h.toTrytes
  /-- The hash of this name is the hash. -/
  ofTrytes : Hash.ofTrytes h.toTrytes = .ok h
  /-- In JSON it is the name between quotes. -/
  compact : h.toJson.compact = "\"" ++ h.toTrytes ++ "\""
  /-- The JSON text is read as the hash. -/
  ofJsonText : ofJsonText? h.toJson.compact = some (.ok h)
  /-- So are the bytes in a stored record, whatever follows them. -/
  stored : Reader.hash.Reads (Encoding.hash h) h

/-- The hash of 243 balanced trits has a name. -/
theorem named_ofTrits {ts : Trits} (hbalanced : ts.Balanced) (hlen : ts.length = 243) :
    (ofTrits ts).Named ts := by
  have hproper : (ofTrits ts).Proper := ⟨ts, hbalanced, rfl⟩
  have hread := hproper.ofTrytes_toTrytes
  have htext : IsText (ofTrits ts).toTrytes := (ofTrytes_ok_iff _).mp ⟨_, hread⟩
  have hjson : (ofTrits ts).toJson.compact = Json.quote (ofTrits ts).toTrytes :=
    Json.compact_text _
  exact {
    trits := by rw [trits_ofTrits hbalanced, Trits.fit_of_length hlen]
    valid := valid_ofTrits hbalanced
    isText := htext
    ofTrytes := hread
    compact := by rw [hjson, quote_of_isText htext]
    ofJsonText := by rw [hjson, ofJsonText?_quote, hread]
    stored := Reader.reads_hash hproper }

/-! ## All of them -/

/-- The hashes that pack 243 balanced trits. -/
def packed : Set Hash := {h | ∃ ts : Trits, ts.Balanced ∧ ts.length = 243 ∧ h = ofTrits ts}

/-- The names: texts of 81 trytes. -/
def names : Set String := {text | IsText text}

theorem proper_of_mem_packed {h : Hash} (hh : h ∈ packed) : h.Proper := by
  obtain ⟨ts, hbalanced, -, rfl⟩ := hh
  exact ⟨ts, hbalanced, rfl⟩

theorem bijOn_toTrytes : Set.BijOn toTrytes packed names := by
  refine ⟨?_, ?_, ?_⟩
  · rintro h ⟨ts, hbalanced, hlen, rfl⟩
    exact (named_ofTrits hbalanced hlen).isText
  · -- each of two hashes is read from its text
    intro a ha b hb heq
    exact (Proper.toTrytes_inj (proper_of_mem_packed ha) (proper_of_mem_packed hb)).mp heq
  · intro text htext
    -- a name is read as 243 trits, and the hash of these has the name
    obtain ⟨ts, hts⟩ := (Tryte.exists_readChars_iff text.toList).mpr htext.2
    obtain ⟨hbalanced, hlen, hchars⟩ := Tryte.chars_of_readChars hts
    rw [htext.1] at hlen
    refine ⟨ofTrits ts, ⟨ts, hbalanced, hlen, rfl⟩, ?_⟩
    rw [toTrytes_ofTrits hbalanced (k := 81) hlen (Nat.le_refl 81), hchars]
    show String.ofList (text.toList ++ []) = text
    rw [List.append_nil, String.ofList_toList]

/-- The texts that name a hash are those of 81 trytes, and a hash that is
    read from a text is written as the text.  The hash of 243 balanced trits,
    and so the identity of any trits, has these trits and is read back from
    its name, from its JSON text and from a stored record.  So names and
    packed hashes correspond one to one. -/
theorem names_correspond :
    (∀ text, (∃ h, ofTrytes text = .ok h) ↔ IsText text) ∧
    (∀ text h, ofTrytes text = .ok h → h.toTrytes = text) ∧
    (∀ ts : Trits, ts.Balanced → ts.length = 243 → (ofTrits ts).Named ts) ∧
    (∀ ts, ∃ us : Trits, us.Balanced ∧ us.length = 243 ∧
      identity ts = ofTrits us ∧ (identity ts).Named us) ∧
    Set.BijOn toTrytes packed names := by
  refine ⟨ofTrytes_ok_iff, fun _ _ => toTrytes_of_ofTrytes, fun _ => named_ofTrits, ?_,
    bijOn_toTrytes⟩
  intro ts
  have hbalanced := balanced_squeezeTrits (Packed.pack ts)
  have hlen : (squeezeTrits (Packed.pack ts)).length = 243 := by
    rw [squeezeTrits, List.length_map, Blake3.length_squeeze]
  exact ⟨_, hbalanced, hlen, rfl, named_ofTrits hbalanced hlen⟩

/-- Trits that are all one are named by the thirteenth letter, 81 times. -/
theorem names_correspond_ones :
    Trits.Balanced (List.replicate 243 1) ∧ (List.replicate 243 1 : Trits).length = 243 ∧
    (ofTrits (List.replicate 243 1)).Named (List.replicate 243 1) ∧
    ofTrytes (String.ofList (List.replicate 81 'M')) = .ok (ofTrits (List.replicate 243 1)) ∧
    (ofTrits (List.replicate 243 1)).toTrytes = String.ofList (List.replicate 81 'M') := by
  have hbalanced : Trits.Balanced (List.replicate 243 1) := fun t ht => by
    rw [List.eq_of_mem_replicate ht]
    decide
  have hlen : (List.replicate 243 1 : Trits).length = 243 := List.length_replicate
  have hread : ofTrytes (String.ofList (List.replicate 81 'M')) =
      .ok (ofTrits (List.replicate 243 1)) := by decide +kernel
  exact ⟨hbalanced, hlen, names_correspond.2.2.1 _ hbalanced hlen, hread,
    names_correspond.2.1 _ _ hread⟩

end TernaryGossip.Hash
