import TernaryGossip.Proofs.Transaction.Fields

/-! # What is built is what was set

    A draft is made by setting some of its fields, in any order.  As long as
    each field is set once, every field of the finished transaction reads as
    what it was set to, and the others read as zeros.  A number is read back
    if it fits into its field, a hash if it is made from balanced trits; of
    a tag the field has room for the first 81 trits.

    The payload that is built decodes to the transaction that is built, and
    it is accepted when no weight is required, since no amount in the usable
    trits exceeds the supply. -/

namespace TernaryGossip

/-! ## Settings -/

/-- A field of a transaction with what it is set to. -/
inductive Setting
  /-- The signature or message. -/
  | signature (ts : Trits)
  /-- The address. -/
  | address (h : Hash)
  /-- The amount. -/
  | value (v : Int)
  /-- The tag. -/
  | tag (h : Hash)
  /-- The time at which the transaction was made. -/
  | timestamp (n : UInt64)
  /-- The position in the bundle. -/
  | currentIndex (n : UInt64)
  /-- The last position in the bundle. -/
  | lastIndex (n : UInt64)
  /-- The bundle. -/
  | bundle (h : Hash)
  /-- The first parent. -/
  | trunk (h : Hash)
  /-- The second parent. -/
  | branch (h : Hash)
  /-- The nonce. -/
  | nonce (h : Hash)

/-- Sets one field of a draft. -/
def Draft.set (d : Draft) : Setting → Draft
  | .signature ts => d.signature ts
  | .address h => d.address h
  | .value v => d.value v
  | .tag h => d.tag h
  | .timestamp n => d.timestamp n
  | .currentIndex n => d.currentIndex n
  | .lastIndex n => d.lastIndex n
  | .bundle h => d.bundle h
  | .trunk h => d.trunk h
  | .branch h => d.branch h
  | .nonce h => d.nonce h

/-- Sets several fields of a draft, one after another. -/
def Draft.setAll (d : Draft) (ss : List Setting) : Draft := ss.foldl Draft.set d

namespace Setting

/-- The field that is set. -/
def field : Setting → Layout.Field
  | .signature _ => Layout.signature
  | .address _ => Layout.address
  | .value _ => Layout.usableValue
  | .tag _ => Layout.tag
  | .timestamp _ => Layout.timestamp
  | .currentIndex _ => Layout.currentIndex
  | .lastIndex _ => Layout.lastIndex
  | .bundle _ => Layout.bundle
  | .trunk _ => Layout.trunk
  | .branch _ => Layout.branch
  | .nonce _ => Layout.nonce

/-- What is set fits into the field. -/
def Proper : Setting → Prop
  | .signature ts => ts.Balanced ∧ ts.length ≤ 6561
  | .value v => v.natAbs ≤ (3 ^ 33 - 1) / 2
  | .timestamp n | .currentIndex n | .lastIndex n => n.toNat ≤ (3 ^ 27 - 1) / 2
  | .address h | .tag h | .bundle h | .trunk h | .branch h | .nonce h => h.Proper

/-- A transaction says in a field what the field is set to: a signature with
    zeros behind it, and of a tag the first 81 trits with zeros behind them. -/
def ReadIn (t : Transaction) : Setting → Prop
  | .signature ts => Layout.signature.read t.trits = ts ++ List.replicate (6561 - ts.length) 0
  | .address h => t.address = h
  | .value v => t.value = v
  | .tag h => ∃ ts, h.trits = .ok ts ∧ t.tag.trits = .ok (ts.take 81 ++ List.replicate 162 0)
  | .timestamp n => t.timestamp = n.toNat
  | .currentIndex n => t.currentIndex = n.toNat
  | .lastIndex n => t.lastIndex = n.toNat
  | .bundle h => t.bundle = h
  | .trunk h => t.trunk = h
  | .branch h => t.branch = h
  | .nonce h => t.nonce = h

/-- Every field, set to nothing. -/
def blanks : List Setting :=
  [.signature [], .address .null, .value 0, .tag .null, .timestamp 0, .currentIndex 0,
    .lastIndex 0, .bundle .null, .trunk .null, .branch .null, .nonce .null]

end Setting

/-! ## The places of a setting -/

/-- The trits that stand for a hash in a field. -/
def Hash.places (h : Hash) : Trits :=
  match h.trits with
  | .ok ts => ts
  | .error _ => List.replicate 243 0

theorem Hash.Proper.exists_places {h : Hash} (hproper : h.Proper) :
    ∃ ts : Trits, ts.Balanced ∧ ts.length = 243 ∧ h.trits = .ok ts ∧ h.places = ts ∧
      h = ofTrits ts := by
  obtain ⟨ts, hbalanced, hlen, htrits, hsame⟩ := hproper.exists_trits
  exact ⟨ts, hbalanced, hlen, htrits, by rw [places, htrits], hsame⟩

theorem Hash.proper_null : null.Proper := ⟨[], fun _ ht => absurd ht List.not_mem_nil, rfl⟩

theorem Hash.places_null : null.places = List.replicate 243 0 := by
  have hbalanced : Trits.Balanced [] := fun _ ht => absurd ht List.not_mem_nil
  have htrits : null.trits = .ok (List.replicate 243 0) := trits_ofTrits hbalanced
  rw [places, htrits]

theorem Draft.putHash_eq (d : Draft) (f : Layout.Field) (h : Hash) :
    d.putHash f h = d.put f h.places := by
  unfold putHash Hash.places
  cases h.trits <;> rfl

namespace Setting

/-- What is written into the field. -/
def content : Setting → Trits
  | .signature ts => ts
  | .value v => Balanced.digits 33 v
  | .timestamp n | .currentIndex n | .lastIndex n => Balanced.digits 27 n.toInt64.toInt
  | .address h | .tag h | .bundle h | .trunk h | .branch h | .nonce h => h.places

theorem set_eq (d : Draft) (s : Setting) : d.set s = d.put s.field s.content := by
  cases s with
  | signature ts => rfl
  | value v | timestamp v | currentIndex v | lastIndex v => rfl
  | address h | tag h | bundle h | trunk h | branch h | nonce h => exact d.putHash_eq _ h

theorem settable (s : Setting) : s.field ∈ Layout.settable := by
  cases s <;> simp [field, Layout.settable]

theorem trits_set (d : Draft) (s : Setting) :
    (d.set s).trits = s.field.write s.content d.trits := by
  rw [set_eq, Draft.trits_put (Layout.stop_le_of_settable _ s.settable)]

theorem Proper.balanced_content {s : Setting} (h : s.Proper) : s.content.Balanced := by
  cases s with
  | signature ts => exact h.1
  | value v | timestamp v | currentIndex v | lastIndex v => exact Balanced.balanced_digits _ _
  | address g | tag g | bundle g | trunk g | branch g | nonce g =>
    obtain ⟨ts, hbalanced, -, -, hplaces, -⟩ := h.exists_places
    rw [content, hplaces]
    exact hbalanced

/-! ## Reading a field back -/

theorem toInt_toInt64_of_lt {n : UInt64} (h : n.toNat < 2 ^ 63) :
    n.toInt64.toInt = n.toNat := by
  rw [← Int64.toInt_toBitVec, UInt64.toBitVec_toInt64, BitVec.toInt_eq_toNat_of_lt,
    UInt64.toNat_toBitVec]
  rw [UInt64.toNat_toBitVec]
  omega

/-- A number that fits into a field is read back from its digits. -/
theorem value_fit_digits {n : Nat} {v : Int} (h : v.natAbs ≤ (3 ^ n - 1) / 2) :
    Balanced.value ((Balanced.digits n v).fit n) = v := by
  have hpos : 0 < 3 ^ n := Nat.pow_pos (by decide)
  rw [Trits.fit_of_length (Balanced.length_digits n v)]
  exact Balanced.value_digits_of_lt (by omega)

theorem value_fit_toInt {n : UInt64} (h : n.toNat ≤ (3 ^ 27 - 1) / 2) :
    Balanced.value ((Balanced.digits 27 n.toInt64.toInt).fit 27) = n.toNat := by
  have hint : n.toInt64.toInt = n.toNat := toInt_toInt64_of_lt (by omega)
  rw [hint]
  exact value_fit_digits (by rwa [Int.natAbs_natCast])

/-- A hash fills its field. -/
theorem ofTrits_fit_places {h : Hash} (hproper : h.Proper) :
    Hash.ofTrits (h.places.fit 243) = h := by
  obtain ⟨ts, -, -, -, hplaces, hsame⟩ := hproper.exists_places
  rw [hplaces, Hash.ofTrits_fit, ← hsame]

/-- A field that holds what was written says what was set. -/
theorem Proper.readIn {s : Setting} (h : s.Proper) {t : Transaction}
    (hread : s.field.read t.trits = s.content.fit s.field.size) : s.ReadIn t := by
  -- the getters read the field
  have hhash : t.fieldHash s.field = Hash.ofTrits (s.content.fit s.field.size) := congrArg _ hread
  have hnumber : t.fieldNumber s.field = Balanced.value (s.content.fit s.field.size) :=
    congrArg _ hread
  cases s with
  | signature ts =>
    have htake : ts.take 6561 = ts := List.take_of_length_le h.2
    exact hread.trans (congrArg (· ++ List.replicate (6561 - ts.length) 0) htake)
  | value v => exact hnumber.trans (value_fit_digits h)
  | timestamp n | currentIndex n | lastIndex n => exact hnumber.trans (value_fit_toInt h)
  | address g | bundle g | trunk g | branch g | nonce g =>
    exact hhash.trans (ofTrits_fit_places h)
  | tag g =>
    obtain ⟨ts, hbalanced, hlen, htrits, hplaces, -⟩ := h.exists_places
    refine ⟨ts, htrits, ?_⟩
    have hfirst : (content (.tag g)).fit (field (.tag g)).size = ts.take 81 := by
      show g.places.fit 81 = ts.take 81
      rw [hplaces, Trits.fit, hlen, Nat.sub_eq_zero_of_le (by decide), List.replicate_zero,
        List.append_nil]
    have hbalanced' : Trits.Balanced (ts.take 81) :=
      fun x hx => hbalanced x (List.mem_of_mem_take hx)
    have htag : t.tag = Hash.ofTrits (ts.take 81) := by rw [← hfirst]; exact hhash
    rw [htag, Hash.trits_ofTrits hbalanced', Trits.fit, List.length_take, hlen,
      List.take_of_length_le (by rw [List.length_take]; omega)]
    rfl

/-- A field that is set to nothing holds zeros. -/
theorem fit_content_of_blank :
    ∀ s ∈ blanks, s.Proper ∧ s.content.fit s.field.size = List.replicate s.field.size 0 := by
  have hhash : ∀ n ≤ 243, (Hash.null.places).fit n = List.replicate n 0 := by
    intro n hn
    rw [Hash.places_null, Trits.fit, List.take_replicate, List.length_replicate,
      List.replicate_append_replicate, Nat.min_eq_left hn, Nat.sub_eq_zero_of_le hn, Nat.add_zero]
  have hnumber : ∀ n, (Balanced.digits n 0).fit n = List.replicate n 0 := by
    intro n
    rw [Trits.fit_of_length (Balanced.length_digits n 0), Balanced.digits_zero]
  have hnull := Hash.proper_null
  simp only [blanks, List.forall_mem_cons, List.not_mem_nil, false_implies, implies_true, and_true]
  refine ⟨⟨⟨fun _ ht => absurd ht List.not_mem_nil, Nat.zero_le _⟩, rfl⟩,
    ⟨hnull, hhash 243 (by decide)⟩, ⟨Nat.zero_le _, hnumber 33⟩, ⟨hnull, hhash 81 (by decide)⟩,
    ⟨Nat.zero_le _, hnumber 27⟩, ⟨Nat.zero_le _, hnumber 27⟩, ⟨Nat.zero_le _, hnumber 27⟩,
    ⟨hnull, hhash 243 (by decide)⟩, ⟨hnull, hhash 243 (by decide)⟩,
    ⟨hnull, hhash 243 (by decide)⟩, ⟨hnull, hhash 243 (by decide)⟩⟩

end Setting

/-! ## Several settings -/

namespace Draft

variable {ss : List Setting}

theorem balanced_setAll (h : ∀ s ∈ ss, s.Proper) {d : Draft} (hd : d.trits.Balanced) :
    (d.setAll ss).trits.Balanced := by
  induction ss generalizing d with
  | nil => exact hd
  | cons s ss ih =>
    obtain ⟨hs, hss⟩ := List.forall_mem_cons.mp h
    refine ih hss ?_
    rw [s.trits_set]
    exact Layout.Field.balanced_write hd hs.balanced_content s.field

/-- A field that stands apart from all that are set reads as before. -/
theorem read_setAll_of_apart {f : Layout.Field} (h : ∀ s ∈ ss, s.field.Apart f) (d : Draft) :
    f.read (d.setAll ss).trits = f.read d.trits := by
  induction ss generalizing d with
  | nil => rfl
  | cons s ss ih =>
    obtain ⟨hs, hss⟩ := List.forall_mem_cons.mp h
    have hstop : s.field.stop ≤ d.trits.length := by
      rw [d.length_trits]
      exact Layout.stop_le_of_settable _ s.settable
    show f.read ((d.set s).setAll ss).trits = _
    rw [ih hss, s.trits_set, Layout.Field.read_write_of_apart hs hstop]

/-- A field that is not set reads as before. -/
theorem read_setAll_of_not_mem {f : Layout.Field} (hf : f ∈ Layout.settable)
    (h : f ∉ ss.map Setting.field) (d : Draft) : f.read (d.setAll ss).trits = f.read d.trits := by
  refine read_setAll_of_apart (fun s hs => ?_) d
  refine Layout.apart_of_settable _ s.settable f hf ?_
  rintro rfl
  exact h (List.mem_map_of_mem hs)

/-- A field of zeros that is set once holds what was written. -/
theorem read_setAll_of_mem (honce : (ss.map Setting.field).Nodup) {s : Setting} (hs : s ∈ ss)
    {d : Draft} (hzeros : s.field.read d.trits = List.replicate s.field.size 0) :
    s.field.read (d.setAll ss).trits = s.content.fit s.field.size := by
  induction ss generalizing d with
  | nil => exact absurd hs List.not_mem_nil
  | cons r ss ih =>
    obtain ⟨hr, honce⟩ := List.nodup_cons.mp honce
    have hstop : r.field.stop ≤ d.trits.length := by
      rw [d.length_trits]
      exact Layout.stop_le_of_settable _ r.settable
    rcases List.mem_cons.mp hs with rfl | hs
    · -- the later settings leave the field alone
      show s.field.read ((d.set s).setAll ss).trits = _
      rw [read_setAll_of_not_mem s.settable hr, s.trits_set,
        Layout.Field.read_write_of_zeros hstop hzeros]
    · -- the first setting is one of another field
      refine ih honce hs ?_
      have hne : r.field ≠ s.field := by
        intro heq
        exact hr (heq ▸ List.mem_map_of_mem hs)
      have hapart := Layout.apart_of_settable _ r.settable _ s.settable hne
      rw [r.trits_set, Layout.Field.read_write_of_apart hapart hstop, hzeros]

/-- The usable trits of an amount do not carry more than the supply. -/
theorem natAbs_value_le {d : Draft} (h : d.trits.Balanced) :
    d.build.value.natAbs ≤ Layout.supply.toNat := by
  have hlt := Balanced.natAbs_value_lt (Layout.Field.balanced_read h Layout.usableValue)
  have hlen : (Layout.usableValue.read d.trits).length = 33 := by
    rw [Layout.Field.length_read, d.length_trits]
    rfl
  have hvalue : d.build.value = Balanced.value (Layout.usableValue.read d.trits) := by
    rw [← d.fill_trits]
    rfl
  have hsupply : Layout.supply.toNat = 2779530283277761 := rfl
  rw [hlen] at hlt
  rw [hvalue, hsupply]
  omega

/-! ## What is built -/

theorem unusedValueIsZero_build (ss : List Setting) :
    (empty.setAll ss).build.unusedValueIsZero = true := by
  have hzeros : Layout.unusedValue.read (empty.setAll ss).trits = List.replicate 48 0 := by
    rw [read_setAll_of_apart fun s _ => Layout.apart_unusedValue _ s.settable]
    exact read_empty (f := Layout.unusedValue) (by decide)
  have htrits : (empty.setAll ss).build.trits = (empty.setAll ss).trits := fill_trits _
  rw [Transaction.unusedValueIsZero, htrits, hzeros]
  decide

/-- What is built is accepted when no weight is required. -/
theorem validate_build (hproper : ∀ s ∈ ss, s.Proper) :
    validate 0 (empty.setAll ss).build.payload = .ok (empty.setAll ss).build := by
  have hbalanced : (empty.setAll ss).trits.Balanced := balanced_setAll hproper balanced_empty
  exact validate_ok_iff.mpr ⟨decode_build hbalanced, unusedValueIsZero_build ss,
    natAbs_value_le hbalanced, Nat.zero_le _⟩

theorem readIn_build (hproper : ∀ s ∈ ss, s.Proper) (honce : (ss.map Setting.field).Nodup)
    {s : Setting} (hs : s ∈ ss) : s.ReadIn (empty.setAll ss).build := by
  refine (hproper s hs).readIn ?_
  have htrits : (empty.setAll ss).build.trits = (empty.setAll ss).trits := fill_trits _
  rw [htrits]
  exact read_setAll_of_mem honce hs (read_empty (Layout.stop_le_of_settable _ s.settable))

/-- A field that is not set reads as nothing. -/
theorem readIn_build_of_not_mem {s : Setting} (hs : s ∈ Setting.blanks)
    (hunset : s.field ∉ ss.map Setting.field) : s.ReadIn (empty.setAll ss).build := by
  obtain ⟨hblank, hzeros⟩ := Setting.fit_content_of_blank s hs
  refine hblank.readIn ?_
  have htrits : (empty.setAll ss).build.trits = (empty.setAll ss).trits := fill_trits _
  rw [htrits, read_setAll_of_not_mem s.settable hunset, hzeros,
    read_empty (Layout.stop_le_of_settable _ s.settable)]

/-- Whatever fields are set, in any order, but each of them once and to
    something that fits: the payload that is built decodes to the transaction
    that is built, which reads in each field that was set what it was set to,
    and nothing in the others.  The unused trits of the amount are zero, and
    the payload is accepted when no weight is required. -/
theorem build_reads_settings (hproper : ∀ s ∈ ss, s.Proper) (honce : (ss.map Setting.field).Nodup) :
    let t := (Draft.empty.setAll ss).build
    Transaction.decode t.payload = .ok t ∧
    (∀ s ∈ ss, s.ReadIn t) ∧
    (∀ s ∈ Setting.blanks, s.field ∉ ss.map Setting.field → s.ReadIn t) ∧
    t.unusedValueIsZero = true ∧
    validate 0 t.payload = .ok t := by
  intro t
  have hvalid : validate 0 t.payload = .ok t := validate_build hproper
  exact ⟨decode_of_validate hvalid, fun s hs => readIn_build hproper honce hs,
    fun s hs hunset => readIn_build_of_not_mem hs hunset, unusedValueIsZero_build ss, hvalid⟩

/-- A message, the greatest amount that can be taken away, a tag and a
    timestamp are read back, and the first parent is null. -/
theorem build_reads_settings_spending :
    let ss : List Setting :=
      [.timestamp 99, .tag (.ofTrits [1, -1]), .value (-2779530283277761), .signature [1, 0, -1]]
    let t := (Draft.empty.setAll ss).build
    ((∀ s ∈ ss, s.Proper) ∧ (ss.map Setting.field).Nodup) ∧
      Transaction.decode t.payload = .ok t ∧ t.timestamp = 99 ∧ t.value = -2779530283277761 ∧
      t.trunk = .null ∧ validate 0 t.payload = .ok t := by
  intro ss t
  have hproper : ∀ s ∈ ss, s.Proper := by
    intro s hs
    simp only [ss, List.mem_cons, List.not_mem_nil, or_false] at hs
    rcases hs with rfl | rfl | rfl | rfl
    · show (99 : UInt64).toNat ≤ _
      decide
    · exact ⟨[1, -1], by decide, rfl⟩
    · show Int.natAbs (-2779530283277761) ≤ _
      decide
    · exact ⟨by decide, by decide⟩
  have honce : (ss.map Setting.field).Nodup := by decide
  obtain ⟨hdecode, hset, hunset, -, hvalid⟩ := build_reads_settings hproper honce
  have htime := hset (.timestamp 99) (by simp [ss])
  have hvalue := hset (.value (-2779530283277761)) (by simp [ss])
  have htrunk := hunset (.trunk .null) (by simp [Setting.blanks]) (by decide)
  exact ⟨⟨hproper, honce⟩, hdecode, htime, hvalue, htrunk, hvalid⟩

end Draft

end TernaryGossip
