/-
TermRef/Proofs/Text/Utf8.lean

Reading bytes as UTF-8 is the inverse of writing characters as bytes.

One step of reading takes a character off the front of a byte list only if the list begins with
the bytes of that character (`next_sound`), and does so whenever it begins with them
(`next_encodeChar`).  Both are arithmetic, with one case for each number of bytes.  The bounds on
the second byte (`isSecond_iff`) are what keeps overlong forms, surrogates and numbers beyond
the last character out, and they hold of all bytes that are written.

Over a whole text, reading goes on until the bytes end, because every step takes a byte at
least.  So bytes denote a text exactly if they are the bytes of that text
(`decode_eq_ok_iff`), and what is read and written again is what was there.

It makes no difference to a text whether its bytes are read at once or in chunks
(`decodeChunked_encode`).  More bytes behind a chunk change what a step gives only where the chunk
ends inside a sequence (`next_append`), and the bytes of this sequence are carried over.
-/
import Mathlib.Data.List.Basic
import TermRef.Text.Utf8

namespace TermRef.Utf8

/-! ### Bytes and numbers -/

theorem toUInt8_eq {n : Nat} {a : UInt8} (h : n = a.toNat) : n.toUInt8 = a := by
  rw [h]
  exact UInt8.ofNat_toNat

theorem toNat_toUInt8 {n : Nat} (h : n < 256) : n.toUInt8.toNat = n := by
  show n % 2 ^ 8 = n
  exact Nat.mod_eq_of_lt h

theorem isTail_iff {b : UInt8} : isTail b = true ↔ 0x80 ≤ b.toNat ∧ b.toNat ≤ 0xbf := by
  rw [isTail, Bool.and_eq_true, decide_eq_true_iff, decide_eq_true_iff, UInt8.le_iff_toNat_le,
    UInt8.le_iff_toNat_le]
  rfl

/-- The bounds on a second byte, as numbers: the usual ones, and tighter ones after four of
the lead bytes. -/
theorem isSecond_iff {a b : UInt8} : isSecond a b = true ↔
    (0x80 ≤ b.toNat ∧ b.toNat ≤ 0xbf) ∧ (a.toNat = 0xe0 → 0xa0 ≤ b.toNat) ∧
      (a.toNat = 0xed → b.toNat ≤ 0x9f) ∧ (a.toNat = 0xf0 → 0x90 ≤ b.toNat) ∧
      (a.toNat = 0xf4 → b.toNat ≤ 0x8f) := by
  have hlit : ∀ n : Nat, n < 256 → ((a == n.toUInt8) = true ↔ a.toNat = n) := by
    intro n hn
    rw [beq_iff_eq, ← UInt8.toNat_inj, toNat_toUInt8 hn]
  have he0 : (a == 0xe0) = true ↔ a.toNat = 0xe0 := hlit 0xe0 (by decide)
  have hed : (a == 0xed) = true ↔ a.toNat = 0xed := hlit 0xed (by decide)
  have hf0 : (a == 0xf0) = true ↔ a.toNat = 0xf0 := hlit 0xf0 (by decide)
  have hf4 : (a == 0xf4) = true ↔ a.toNat = 0xf4 := hlit 0xf4 (by decide)
  rw [isSecond, secondBounds, Bool.and_eq_true, decide_eq_true_iff, decide_eq_true_iff,
    UInt8.le_iff_toNat_le, UInt8.le_iff_toNat_le]
  simp only [he0, hed, hf0, hf4]
  split_ifs <;> simp only [UInt8.reduceToNat] <;> omega

/-! ### Characters and numbers -/

theorem toNat_ofNat {n : Nat} (h : n < 0xd800 ∨ 0xdfff < n ∧ n < 0x110000) :
    (Char.ofNat n).toNat = n := by
  have hvalid : n.isValidChar := h
  rw [Char.ofNat, dif_pos hvalid]
  rfl

/-- The number of a character is that of none of the surrogates. -/
theorem toNat_valid (c : Char) : c.toNat < 0xd800 ∨ 0xdfff < c.toNat ∧ c.toNat < 0x110000 :=
  c.valid

/-! ### What is read is what was written -/

section Sound

variable {a : UInt8} {r rest : List UInt8} {c : Char} {w : Nat}

theorem readTwo_sound (ha : 0xc2 ≤ a.toNat ∧ a.toNat < 0xe0) (h : readTwo a r = .char c w rest) :
    a :: r = encodeChar c ++ rest := by
  rcases r with - | ⟨b, r⟩
  · cases h
  · rw [readTwo] at h
    split at h
    · rename_i hb
      have hb := isTail_iff.mp hb
      cases h
      have hn := toNat_ofNat (n := a.toNat % 32 * 64 + tailBits b) (by rw [tailBits]; omega)
      rw [encodeChar, hn, encodeNat, if_neg (by rw [tailBits]; omega), tailBits,
        if_pos (by omega), toUInt8_eq (a := a) (by omega), toUInt8_eq (a := b) (by omega)]
      rfl
    · cases h

theorem readThree_sound (ha : 0xe0 ≤ a.toNat ∧ a.toNat < 0xf0)
    (h : readThree a r = .char c w rest) : a :: r = encodeChar c ++ rest := by
  rcases r with - | ⟨b, - | ⟨d, r⟩⟩
  · cases h
  · rw [readThree] at h
    split at h <;> cases h
  · rw [readThree] at h
    split at h
    · cases h
    · split at h
      · cases h
      · rename_i hb hd
        have hb := isSecond_iff.mp (by simpa using hb)
        have hd := isTail_iff.mp (by simpa using hd)
        cases h
        have hn := toNat_ofNat (n := a.toNat % 16 * 4096 + tailBits b * 64 + tailBits d)
          (by rw [tailBits, tailBits]; omega)
        rw [encodeChar, hn, tailBits, tailBits, encodeNat, if_neg (by omega), if_neg (by omega),
          if_pos (by omega), toUInt8_eq (a := a) (by omega), toUInt8_eq (a := b) (by omega),
          toUInt8_eq (a := d) (by omega)]
        rfl

theorem readFour_sound (ha : 0xf0 ≤ a.toNat ∧ a.toNat < 0xf5)
    (h : readFour a r = .char c w rest) : a :: r = encodeChar c ++ rest := by
  rcases r with - | ⟨b, - | ⟨d, - | ⟨e, r⟩⟩⟩
  · cases h
  · rw [readFour] at h
    split at h <;> cases h
  · rw [readFour] at h
    split at h
    · cases h
    · split at h <;> cases h
  · rw [readFour] at h
    split at h
    · cases h
    · split at h
      · cases h
      · split at h
        · cases h
        · rename_i hb hd he
          have hb := isSecond_iff.mp (by simpa using hb)
          have hd := isTail_iff.mp (by simpa using hd)
          have he := isTail_iff.mp (by simpa using he)
          cases h
          have hn := toNat_ofNat
            (n := a.toNat % 8 * 262144 + tailBits b * 4096 + tailBits d * 64 + tailBits e)
            (by rw [tailBits, tailBits, tailBits]; omega)
          rw [encodeChar, hn, tailBits, tailBits, tailBits, encodeNat, if_neg (by omega),
            if_neg (by omega), if_neg (by omega), toUInt8_eq (a := a) (by omega),
            toUInt8_eq (a := b) (by omega), toUInt8_eq (a := d) (by omega),
            toUInt8_eq (a := e) (by omega)]
          rfl

theorem next_sound (h : next a r = .char c w rest) : a :: r = encodeChar c ++ rest := by
  unfold next at h
  simp only [UInt8.lt_iff_toNat_lt, UInt8.reduceToNat] at h
  split_ifs at h with h1 h2 h3 h4 h5
  · cases h
    have hn := toNat_ofNat (n := a.toNat) (by omega)
    rw [encodeChar, hn, encodeNat, if_pos h1, toUInt8_eq rfl]
    rfl
  · exact readTwo_sound ⟨by omega, h3⟩ h
  · exact readThree_sound ⟨by omega, h4⟩ h
  · exact readFour_sound ⟨by omega, h5⟩ h

end Sound

/-! ### What was written is read -/

/-- A character is read from its bytes, whatever follows them. -/
theorem next_encodeChar (c : Char) (rest : List UInt8) :
    ∃ a r w, encodeChar c ++ rest = a :: r ∧ next a r = .char c w rest := by
  have hvalid := toNat_valid c
  have hc : ∀ n, n = c.toNat → Char.ofNat n = c := fun n h => h ▸ Char.ofNat_toNat c
  generalize hn : c.toNat = n at hvalid hc
  rw [encodeChar, hn, encodeNat]
  split_ifs with h1 h2 h3
  · refine ⟨_, _, 1, rfl, ?_⟩
    have ha := toNat_toUInt8 (n := n) (by omega)
    simp only [next, UInt8.lt_iff_toNat_lt, ha, UInt8.reduceToNat, if_pos h1, hc]
    rfl
  · refine ⟨_, _, 2, rfl, ?_⟩
    have ha := toNat_toUInt8 (n := 0xc0 + n / 64) (by omega)
    have hb := toNat_toUInt8 (n := 0x80 + n % 64) (by omega)
    simp only [next, UInt8.lt_iff_toNat_lt, ha, UInt8.reduceToNat]
    rw [if_neg (by omega), if_neg (by omega), if_pos (by omega)]
    show readTwo _ (_ :: rest) = _
    rw [readTwo, if_pos (isTail_iff.mpr (by omega)), tailBits, ha, hb, hc _ (by omega)]
  · refine ⟨_, _, 3, rfl, ?_⟩
    have ha := toNat_toUInt8 (n := 0xe0 + n / 4096) (by omega)
    have hb := toNat_toUInt8 (n := 0x80 + n / 64 % 64) (by omega)
    have hd := toNat_toUInt8 (n := 0x80 + n % 64) (by omega)
    simp only [next, UInt8.lt_iff_toNat_lt, ha, UInt8.reduceToNat]
    rw [if_neg (by omega), if_neg (by omega), if_neg (by omega), if_pos (by omega)]
    show readThree _ (_ :: _ :: rest) = _
    have hsecond := isSecond_iff (a := (0xe0 + n / 4096).toUInt8)
      (b := (0x80 + n / 64 % 64).toUInt8) |>.mpr (by rw [ha, hb]; omega)
    have htail := isTail_iff (b := (0x80 + n % 64).toUInt8) |>.mpr (by omega)
    rw [readThree, hsecond, htail, tailBits, tailBits, ha, hb, hd, hc _ (by omega)]
    rfl
  · refine ⟨_, _, 4, rfl, ?_⟩
    have ha := toNat_toUInt8 (n := 0xf0 + n / 262144) (by omega)
    have hb := toNat_toUInt8 (n := 0x80 + n / 4096 % 64) (by omega)
    have hd := toNat_toUInt8 (n := 0x80 + n / 64 % 64) (by omega)
    have he := toNat_toUInt8 (n := 0x80 + n % 64) (by omega)
    simp only [next, UInt8.lt_iff_toNat_lt, ha, UInt8.reduceToNat]
    rw [if_neg (by omega), if_neg (by omega), if_neg (by omega), if_neg (by omega),
      if_pos (by omega)]
    show readFour _ (_ :: _ :: _ :: rest) = _
    have hsecond := isSecond_iff (a := (0xf0 + n / 262144).toUInt8)
      (b := (0x80 + n / 4096 % 64).toUInt8) |>.mpr (by rw [ha, hb]; omega)
    have htail := isTail_iff (b := (0x80 + n / 64 % 64).toUInt8) |>.mpr (by omega)
    have htail' := isTail_iff (b := (0x80 + n % 64).toUInt8) |>.mpr (by omega)
    rw [readFour, hsecond, htail, htail', tailBits, tailBits, tailBits, ha, hb, hd, he,
      hc _ (by omega)]
    rfl

/-! ### Whole texts -/

theorem length_encodeChar_pos (c : Char) : 0 < (encodeChar c).length := by
  rw [encodeChar, encodeNat]
  split_ifs <;> simp

theorem encode_cons (c : Char) (s : List Char) : encode (c :: s) = encodeChar c ++ encode s :=
  List.flatMap_cons

/-- The bytes of a text are those of its parts. -/
theorem encode_append (s u : List Char) : encode (s ++ u) = encode s ++ encode u :=
  List.flatMap_append

/-- Bytes that are read to their end are those of the characters read. -/
theorem readFrom_sound {f n : Nat} {b : List UInt8} {done out : List Char} (hf : b.length ≤ f)
    (h : readFrom f n b done = (out, none)) : ∃ s, out = s.reverse ++ done ∧ b = encode s := by
  induction f generalizing n b done with
  | zero =>
    obtain rfl : b = [] := List.length_eq_zero_iff.mp (by omega)
    rw [readFrom] at h
    cases h
    exact ⟨[], rfl, rfl⟩
  | succ f ih =>
    rcases b with - | ⟨a, r⟩
    · cases h
      exact ⟨[], rfl, rfl⟩
    · rw [readFrom] at h
      rcases hnext : next a r with ⟨c, w, rest⟩ | ⟨w, reason⟩
      · rw [hnext] at h
        have hb := next_sound hnext
        have hlen := congrArg List.length hb
        have hpos := length_encodeChar_pos c
        rw [List.length_cons, List.length_append] at hlen
        rw [List.length_cons] at hf
        obtain ⟨s, rfl, rfl⟩ := ih (by omega) h
        exact ⟨c :: s, by simp, by rw [hb, encode_cons]⟩
      · rw [hnext] at h
        cases h

/-- The bytes of a text are read to their end. -/
theorem readFrom_encode (s : List Char) {f n : Nat} {done : List Char}
    (hf : (encode s).length ≤ f) : readFrom f n (encode s) done = (s.reverse ++ done, none) := by
  induction s generalizing f n done with
  | nil =>
    rcases f with - | f <;> rfl
  | cons c s ih =>
    obtain ⟨a, r, w, har, hnext⟩ := next_encodeChar c (encode s)
    rw [encode_cons, har] at hf ⊢
    rcases f with - | f
    · simp at hf
    · have hlen := congrArg List.length har
      have hpos := length_encodeChar_pos c
      rw [List.length_cons, List.length_append] at hlen
      rw [List.length_cons] at hf
      rw [readFrom, hnext]
      dsimp only
      rw [ih (by omega)]
      simp

/-- **Bytes denote a text exactly if they are the bytes of that text.** -/
theorem decode_eq_ok_iff {b : List UInt8} {s : List Char} : decode b = .ok s ↔ b = encode s := by
  rw [decode]
  constructor
  · intro h
    rcases hr : readFrom b.length 0 b [] with ⟨out, - | ⟨fault, rest⟩⟩
    · rw [hr] at h
      obtain ⟨u, rfl, hu⟩ := readFrom_sound (Nat.le_refl _) hr
      cases h
      simpa using hu
    · rw [hr] at h
      cases h
  · rintro rfl
    rw [readFrom_encode s (Nat.le_refl _)]
    simp

/-- Two texts with the same bytes are the same. -/
theorem encode_injective : Function.Injective encode := by
  intro s u h
  have hs : decode (encode s) = .ok s := decode_eq_ok_iff.mpr rfl
  rw [h, decode_eq_ok_iff.mpr rfl] at hs
  exact (Except.ok.inj hs).symm

/-- Bytes are no text exactly if they are the bytes of none. -/
theorem decode_eq_error_iff {b : List UInt8} :
    (∃ f, decode b = .error f) ↔ ∀ s, b ≠ encode s := by
  constructor
  · rintro ⟨f, hf⟩ s hs
    rw [decode_eq_ok_iff.mpr hs] at hf
    cases hf
  · intro h
    rcases hd : decode b with f | s
    · exact ⟨f, rfl⟩
    · exact absurd (decode_eq_ok_iff.mp hd) (h s)

/-! ### What was written is read in chunks -/

/-- A step with more bytes behind what it leaves. -/
def Step.append (more : List UInt8) : Step → Step
  | .char c w rest => .char c w (rest ++ more)
  | .fault w reason => .fault w reason

/-- The data ends inside a sequence. -/
def Step.IsTruncated (x : Step) : Prop := ∃ w, x = .fault w .truncated

section Append

variable (a : UInt8) (r more : List UInt8)

theorem readTwo_append :
    (readTwo a r).IsTruncated ∨ readTwo a (r ++ more) = (readTwo a r).append more := by
  rcases r with - | ⟨b, r⟩
  · exact .inl ⟨1, rfl⟩
  · right
    rw [List.cons_append, readTwo, readTwo]
    split <;> rfl

theorem readThree_append :
    (readThree a r).IsTruncated ∨ readThree a (r ++ more) = (readThree a r).append more := by
  rcases r with - | ⟨b, - | ⟨c, r⟩⟩
  · exact .inl ⟨1, rfl⟩
  · rw [readThree]
    split
    · exact .inl ⟨2, rfl⟩
    · right
      rcases more with - | ⟨c, more⟩ <;> simp_all [readThree, Step.append]
  · right
    rw [List.cons_append, List.cons_append, readThree, readThree]
    split_ifs <;> rfl

theorem readFour_append :
    (readFour a r).IsTruncated ∨ readFour a (r ++ more) = (readFour a r).append more := by
  rcases r with - | ⟨b, - | ⟨c, - | ⟨d, r⟩⟩⟩
  · exact .inl ⟨1, rfl⟩
  · rw [readFour]
    split
    · exact .inl ⟨2, rfl⟩
    · right
      rcases more with - | ⟨c, - | ⟨d, more⟩⟩ <;> simp_all [readFour, Step.append]
  · rw [readFour]
    split_ifs
    · right
      rcases more with - | ⟨d, more⟩ <;> simp_all [readFour, Step.append]
    · exact .inl ⟨3, rfl⟩
    · right
      rcases more with - | ⟨d, more⟩ <;> simp_all [readFour, Step.append]
  · right
    rw [List.cons_append, List.cons_append, List.cons_append, readFour, readFour]
    split_ifs <;> rfl

/-- **More bytes make a difference to a step only where the data ends inside a sequence.** -/
theorem next_append :
    (next a r).IsTruncated ∨ next a (r ++ more) = (next a r).append more := by
  unfold next
  split_ifs
  · exact .inr rfl
  · exact .inr rfl
  · exact readTwo_append a r more
  · exact readThree_append a r more
  · exact readFour_append a r more
  · exact .inr rfl

end Append

/-- The beginning of the bytes of a text is read up to an unfinished sequence at its end. -/
theorem readFrom_of_append {s : List Char} {data more : List UInt8} {f : Nat} (n : Nat)
    (done : List Char) (h : data ++ more = encode s) (hf : data.length ≤ f) :
    ∃ u v rest, s = u ++ v ∧ rest ++ more = encode v ∧
      (readFrom f n data done = (u.reverse ++ done, none) ∧ rest = [] ∨
        ∃ fault, readFrom f n data done = (u.reverse ++ done, some (fault, rest)) ∧
          fault.reason = .truncated) := by
  induction f generalizing s n data done with
  | zero =>
    obtain rfl : data = [] := List.length_eq_zero_iff.mp (by omega)
    exact ⟨[], s, [], rfl, h, .inl ⟨rfl, rfl⟩⟩
  | succ f ih =>
    rcases data with - | ⟨a, r⟩
    · exact ⟨[], s, [], rfl, h, .inl ⟨rfl, rfl⟩⟩
    rcases s with - | ⟨c, s⟩
    · cases h
    obtain ⟨a', r', w, hbytes, hnext⟩ := next_encodeChar c (encode s)
    rw [encode_cons, hbytes, List.cons_append] at h
    obtain ⟨rfl, rfl⟩ := List.cons.inj h
    rcases next_append a r more with ⟨w, hstep⟩ | hstep
    · -- the sequence goes on behind the data
      refine ⟨[], c :: s, a :: r, rfl, by rw [encode_cons, hbytes]; rfl,
        .inr ⟨⟨n, w, a, _⟩, ?_, rfl⟩⟩
      rw [readFrom, hstep]
      rfl
    · rw [hnext] at hstep
      rcases hx : next a r with ⟨c', w', rest⟩ | ⟨w', reason⟩
      · rw [hx, Step.append] at hstep
        obtain ⟨rfl, rfl, hrest⟩ := Step.char.inj hstep
        have hlen := congrArg List.length (next_sound hx)
        have hpos := length_encodeChar_pos c
        rw [List.length_cons, List.length_append] at hlen
        rw [List.length_cons] at hf
        obtain ⟨u, v, rest', rfl, hmore, hread⟩ :=
          ih (n + w) (c :: done) hrest.symm (by omega)
        refine ⟨c :: u, v, rest', rfl, hmore, ?_⟩
        have hcons : (c :: u).reverse ++ done = u.reverse ++ c :: done := by simp
        rw [readFrom, hx, hcons]
        exact hread
      · rw [hx, Step.append] at hstep
        cases hstep

/-- What is left of the bytes of a text is read, in whatever chunks. -/
theorem readChunks_encode {size : Nat} (hsize : 0 < size) {f : Nat} {left bytes : List UInt8}
    {s : List Char} (done : List Char) (h : left ++ bytes = encode s) (hf : bytes.length < f) :
    readChunks size f left bytes done = .ok (done.reverse ++ s) := by
  induction f generalizing left bytes s done with
  | zero => omega
  | succ f ih =>
    have hdata : (left ++ bytes.take size) ++ bytes.drop size = encode s := by
      rw [List.append_assoc, List.take_append_drop, h]
    rw [readChunks]
    by_cases hbytes : bytes = []
    · obtain rfl : left = encode s := by rw [← h, hbytes, List.append_nil]
      rw [hbytes, List.take_nil, List.append_nil, readFrom_encode s (Nat.le_refl _)]
      simp
    · have hshort : (bytes.drop size).length < f := by
        have hpos := List.length_pos_of_ne_nil hbytes
        rw [List.length_drop]
        omega
      obtain ⟨u, v, rest, rfl, hmore, ⟨hread, rfl⟩ | ⟨fault, hread, hfault⟩⟩ :=
        readFrom_of_append 0 done hdata (Nat.le_refl _)
      · have hmany := ih (u.reverse ++ done) hmore hshort
        simp only [hread, hmany]
        simp [hbytes]
      · have hmany := ih (u.reverse ++ done) hmore hshort
        simp only [hread, hmany]
        simp [hbytes, hfault]

/-- **A text is read from its bytes in whatever chunks.** -/
theorem decodeChunked_encode {size : Nat} (hsize : 0 < size) (s : List Char) :
    decodeChunked size (encode s) = .ok s :=
  readChunks_encode hsize [] rfl (by omega)

end TermRef.Utf8
