import TickWire.Proofs.Outcome
import TickWire.Text.Utf8

/-!
# UTF-8 read back

Every list of characters is read back from its encoding, and bytes that can be read are
the encoding of what they are read as.  Bytes below 0x80 stand for themselves and occur in
an encoding only as characters, so a byte that ends a line or a field cannot come from the
middle of another character.  An encoding that is cut is read up to the cut if a character
ends there, and otherwise not at all.
-/

namespace TickWire.Utf8

variable {char : Char} {chars : List Char}

/-- Characters are neither surrogates nor beyond the last code. -/
theorem code_bounds (char : Char) :
    char.toNat < 0xD800 ∨ 0xDFFF < char.toNat ∧ char.toNat < 0x110000 :=
  char.valid

theorem encodeChar_of_ascii (ascii : char.toNat < 0x80) :
    encodeChar char = [UInt8.ofNat char.toNat] := by
  simp [encodeChar, ascii]

theorem toNat_ofNat_of_lt {number : Nat} (small : number < 256) :
    (UInt8.ofNat number).toNat = number := by
  rw [UInt8.toNat_ofNat', Nat.mod_eq_of_lt small]

/-- The first byte of a character of three bytes admits its second byte. -/
theorem lead?_of_three (code : Nat) (low : 0x800 ≤ code) (high : code < 0x10000)
    (valid : code < 0xD800 ∨ 0xDFFF < code) :
    ∃ lead, lead? (0xE0 + code / 4096) = some lead ∧ lead.following = 2 ∧
      lead.low ≤ 0x80 + code / 64 % 64 ∧ 0x80 + code / 64 % 64 ≤ lead.high := by
  unfold lead?
  split
  · omega
  split
  · exact ⟨_, rfl, rfl, by dsimp only; omega, by dsimp only; omega⟩
  split
  · exact ⟨_, rfl, rfl, by dsimp only; omega, by dsimp only; omega⟩
  split
  · exact ⟨_, rfl, rfl, by dsimp only; omega, by dsimp only; omega⟩
  · omega

/-- The first byte of a character of four bytes admits its second byte. -/
theorem lead?_of_four (code : Nat) (low : 0x10000 ≤ code) (high : code < 0x110000) :
    ∃ lead, lead? (0xF0 + code / 262144) = some lead ∧ lead.following = 3 ∧
      lead.low ≤ 0x80 + code / 4096 % 64 ∧ 0x80 + code / 4096 % 64 ≤ lead.high := by
  unfold lead?
  split
  · omega
  split
  · omega
  split
  · omega
  split
  · omega
  split
  · exact ⟨_, rfl, rfl, by dsimp only; omega, by dsimp only; omega⟩
  split
  · exact ⟨_, rfl, rfl, by dsimp only; omega, by dsimp only; omega⟩
  split
  · exact ⟨_, rfl, rfl, by dsimp only; omega, by dsimp only; omega⟩
  · omega

theorem isTail_ofNat (bits : Nat) (small : bits < 64) :
    isTail (UInt8.ofNat (0x80 + bits)) = true := by
  rw [isTail, toNat_ofNat_of_lt (by omega), decide_eq_true_eq]
  omega

theorem tailBits_ofNat (bits : Nat) (small : bits < 64) :
    tailBits (UInt8.ofNat (0x80 + bits)) = bits := by
  rw [tailBits, toNat_ofNat_of_lt (by omega)]
  omega

theorem start_two (code : Nat) (low : 0x80 ≤ code) (high : code < 0x800)
    (later : Bytes) :
    start (UInt8.ofNat (0xC0 + code / 64)) (UInt8.ofNat (0x80 + code % 64) :: later) =
      .char (Char.ofNat code) later := by
  have lead : lead? (0xC0 + code / 64) = some ⟨1, 0x80, 0xBF⟩ :=
    if_pos ⟨by omega, by omega⟩
  have bits : (0xC0 + code / 64) % 32 * 64 + code % 64 = code := by omega
  rw [start, toNat_ofNat_of_lt (by omega), if_neg (by omega), lead]
  dsimp only
  rw [toNat_ofNat_of_lt (by omega), if_neg (by omega), if_pos rfl,
    tailBits_ofNat _ (by omega), bits]

theorem start_three (code : Nat) (low : 0x800 ≤ code) (high : code < 0x10000)
    (valid : code < 0xD800 ∨ 0xDFFF < code) (later : Bytes) :
    start (UInt8.ofNat (0xE0 + code / 4096))
        (UInt8.ofNat (0x80 + code / 64 % 64) :: UInt8.ofNat (0x80 + code % 64) :: later) =
      .char (Char.ofNat code) later := by
  obtain ⟨lead, found, following, lowest, greatest⟩ := lead?_of_three code low high valid
  have bits : (0xE0 + code / 4096) % 16 * 4096 + code / 64 % 64 * 64 + code % 64 = code := by
    omega
  rw [start, toNat_ofNat_of_lt (by omega), if_neg (by omega), found]
  dsimp only
  rw [toNat_ofNat_of_lt (by omega), if_neg (by omega), if_neg (by omega),
    isTail_ofNat _ (by omega), if_neg (by simp), if_pos following,
    tailBits_ofNat _ (by omega), tailBits_ofNat _ (by omega), bits]

theorem start_four (code : Nat) (low : 0x10000 ≤ code) (high : code < 0x110000)
    (later : Bytes) :
    start (UInt8.ofNat (0xF0 + code / 262144))
        (UInt8.ofNat (0x80 + code / 4096 % 64) :: UInt8.ofNat (0x80 + code / 64 % 64) ::
          UInt8.ofNat (0x80 + code % 64) :: later) =
      .char (Char.ofNat code) later := by
  obtain ⟨lead, found, following, lowest, greatest⟩ := lead?_of_four code low high
  have bits : (0xF0 + code / 262144) % 8 * 262144 + code / 4096 % 64 * 4096
      + code / 64 % 64 * 64 + code % 64 = code := by
    omega
  rw [start, toNat_ofNat_of_lt (by omega), if_neg (by omega), found]
  dsimp only
  rw [toNat_ofNat_of_lt (by omega), if_neg (by omega), if_neg (by omega),
    isTail_ofNat _ (by omega), if_neg (by simp), if_neg (by omega),
    isTail_ofNat _ (by omega), if_neg (by simp), tailBits_ofNat _ (by omega),
    tailBits_ofNat _ (by omega), tailBits_ofNat _ (by omega), bits]

/-- A character is read off the front of its encoding, whatever follows it. -/
theorem start_encodeChar (char : Char) (later : Bytes) :
    ∃ first others, encodeChar char = first :: others ∧
      start first (others ++ later) = .char char later := by
  have valid := code_bounds char
  have whole := Char.ofNat_toNat char
  unfold encodeChar
  dsimp only
  split
  next one =>
    refine ⟨_, _, rfl, ?_⟩
    rw [start, toNat_ofNat_of_lt (by omega), if_pos one, whole]
    rfl
  next notOne =>
  split
  next two =>
    exact ⟨_, _, rfl, (start_two char.toNat (by omega) two later).trans (by rw [whole])⟩
  next notTwo =>
  split
  next three =>
    exact ⟨_, _, rfl,
      (start_three char.toNat (by omega) three (by omega) later).trans (by rw [whole])⟩
  next notThree =>
    exact ⟨_, _, rfl,
      (start_four char.toNat (by omega) (by omega) later).trans (by rw [whole])⟩

theorem length_encodeChar_pos (char : Char) : 0 < (encodeChar char).length := by
  unfold encodeChar
  dsimp only
  split
  · exact Nat.one_pos
  · split
    · exact Nat.two_pos
    · split <;> exact Nat.succ_pos _

theorem length_le_length_encode (chars : List Char) : chars.length ≤ (encode chars).length := by
  induction chars with
  | nil => exact Nat.le_refl 0
  | cons char rest ih =>
      have positive := length_encodeChar_pos char
      rw [encode_cons, List.length_append, List.length_cons]
      omega

/-- Characters are read off the front of their encoding, and then what follows it. -/
theorem decodeFrom_encode_append (bound position : Nat) (chars : List Char) (later : Bytes) :
    decodeFrom (chars.length + bound) position (encode chars ++ later) =
      (decodeFrom bound (position + (encode chars).length) later).map (chars ++ ·) := by
  induction chars generalizing position with
  | nil =>
      rw [List.length_nil, Nat.zero_add]
      exact (congrFun Except.map_id (decodeFrom bound position later)).symm
  | cons char others ih =>
      obtain ⟨first, following, bytes, started⟩ := start_encodeChar char (encode others ++ later)
      rw [encode_cons, List.length_append, ← Nat.add_assoc, List.append_assoc, bytes,
        List.cons_append, List.length_cons, Nat.succ_add, decodeFrom, started]
      simp only [ih, ← bytes]
      cases decodeFrom bound (position + (encodeChar char).length + (encode others).length) later <;>
        rfl

/-- The bound is great enough for the characters at the front and for what follows them. -/
theorem decode_encode_append (chars : List Char) (later : Bytes) :
    ∃ bound, later.length < bound ∧ decode (encode chars ++ later) =
      (decodeFrom bound (encode chars).length later).map (chars ++ ·) := by
  have short := length_le_length_encode chars
  refine ⟨(encode chars ++ later).length + 1 - chars.length, ?_, ?_⟩
  · rw [List.length_append]
    omega
  · have total : (encode chars ++ later).length + 1 =
        chars.length + ((encode chars ++ later).length + 1 - chars.length) := by
      rw [List.length_append]
      omega
    rw [decode, total, decodeFrom_encode_append, Nat.zero_add, Nat.add_sub_cancel_left]

/-- Characters are read back from their encoding. -/
theorem decode_encode (chars : List Char) : decode (encode chars) = .ok chars := by
  obtain ⟨bound, enough, read⟩ := decode_encode_append chars []
  obtain ⟨bound, rfl⟩ := Nat.exists_eq_succ_of_ne_zero (Nat.ne_zero_of_lt enough)
  rw [List.append_nil] at read
  rw [read, decodeFrom, map_ok, List.append_nil]

/-- The bytes of a character that is not ASCII are none of the bytes below 0x80. -/
theorem le_of_mem_encodeChar {byte : UInt8} (wide : 0x80 ≤ char.toNat)
    (member : byte ∈ encodeChar char) : 0x80 ≤ byte.toNat := by
  have valid := code_bounds char
  unfold encodeChar at member
  dsimp only at member
  rw [if_neg (by omega)] at member
  split at member
  · simp only [List.mem_cons, List.not_mem_nil, or_false] at member
    rcases member with rfl | rfl <;> rw [toNat_ofNat_of_lt (by omega)] <;> omega
  split at member
  · simp only [List.mem_cons, List.not_mem_nil, or_false] at member
    rcases member with rfl | rfl | rfl <;> rw [toNat_ofNat_of_lt (by omega)] <;> omega
  · simp only [List.mem_cons, List.not_mem_nil, or_false] at member
    rcases member with rfl | rfl | rfl | rfl <;>
      rw [toNat_ofNat_of_lt (by omega)] <;> omega

/-- A byte below 0x80 stands for the character of its code. -/
theorem mem_of_mem_encode {byte : UInt8} (member : byte ∈ encode chars)
    (ascii : byte.toNat < 0x80) : Char.ofNat byte.toNat ∈ chars := by
  obtain ⟨char, inChars, inBytes⟩ := List.mem_flatMap.mp member
  by_cases one : char.toNat < 0x80
  · rw [encodeChar_of_ascii one, List.mem_singleton] at inBytes
    rw [inBytes, toNat_ofNat_of_lt (by omega), Char.ofNat_toNat]
    exact inChars
  · have wide := le_of_mem_encodeChar (by omega) inBytes
    omega

theorem mem_encode_of_mem (member : char ∈ chars) (ascii : char.toNat < 0x80) :
    UInt8.ofNat char.toNat ∈ encode chars := by
  refine List.mem_flatMap.mpr ⟨char, member, ?_⟩
  rw [encodeChar_of_ascii ascii]
  exact List.mem_singleton_self _

theorem encode_injective {others : List Char} (same : encode chars = encode others) :
    chars = others := by
  apply Except.ok.inj
  rw [← decode_encode chars, same, decode_encode]

/-! ## Bytes that are read -/

/-- A number below the codes that are no characters, or between them and the end, is the
code of its character. -/
theorem toNat_ofNat_of_valid {code : Nat}
    (valid : code < 0xD800 ∨ 0xDFFF < code ∧ code < 0x110000) :
    (Char.ofNat code).toNat = code := by
  have isValid : code.isValidChar := valid
  rw [Char.ofNat, dif_pos isValid]
  rfl

/-- What the first byte of a character announces, by the number of bytes that follow. -/
theorem lead?_cases {first : Nat} {lead : Lead} (found : lead? first = some lead) :
    (lead.following = 1 ∧ 0xC2 ≤ first ∧ first ≤ 0xDF ∧ lead.low = 0x80 ∧ lead.high = 0xBF) ∨
    (lead.following = 2 ∧ 0xE0 ≤ first ∧ first ≤ 0xEF ∧ 0x80 ≤ lead.low ∧ lead.high ≤ 0xBF ∧
      (first = 0xE0 → 0xA0 ≤ lead.low) ∧ (first = 0xED → lead.high ≤ 0x9F)) ∨
    (lead.following = 3 ∧ 0xF0 ≤ first ∧ first ≤ 0xF4 ∧ 0x80 ≤ lead.low ∧ lead.high ≤ 0xBF ∧
      (first = 0xF0 → 0x90 ≤ lead.low) ∧ (first = 0xF4 → lead.high ≤ 0x8F)) := by
  revert found
  fun_cases lead? first <;> intro found <;> cases found <;> dsimp only <;> omega

theorem encodeChar_ofNat_of_one {code : Nat} (small : code < 0x80) :
    encodeChar (Char.ofNat code) = [UInt8.ofNat code] := by
  have whole := toNat_ofNat_of_valid (.inl (Nat.lt_trans small (by decide)))
  rw [encodeChar_of_ascii (by rwa [whole]), whole]

theorem encodeChar_ofNat_of_two {code : Nat} (low : 0x80 ≤ code) (high : code < 0x800) :
    encodeChar (Char.ofNat code) =
      [UInt8.ofNat (0xC0 + code / 64), UInt8.ofNat (0x80 + code % 64)] := by
  have whole := toNat_ofNat_of_valid (.inl (Nat.lt_trans high (by decide)))
  simp only [encodeChar, whole, if_neg (Nat.not_lt.mpr low), if_pos high]

theorem encodeChar_ofNat_of_three {code : Nat} (low : 0x800 ≤ code) (high : code < 0x10000)
    (valid : code < 0xD800 ∨ 0xDFFF < code) :
    encodeChar (Char.ofNat code) =
      [UInt8.ofNat (0xE0 + code / 4096), UInt8.ofNat (0x80 + code / 64 % 64),
        UInt8.ofNat (0x80 + code % 64)] := by
  have whole : (Char.ofNat code).toNat = code := toNat_ofNat_of_valid (by omega)
  have notOne : ¬code < 0x80 := by omega
  simp only [encodeChar, whole, if_neg notOne, if_neg (Nat.not_lt.mpr low), if_pos high]

theorem encodeChar_ofNat_of_four {code : Nat} (low : 0x10000 ≤ code)
    (high : code < 0x110000) :
    encodeChar (Char.ofNat code) =
      [UInt8.ofNat (0xF0 + code / 262144), UInt8.ofNat (0x80 + code / 4096 % 64),
        UInt8.ofNat (0x80 + code / 64 % 64), UInt8.ofNat (0x80 + code % 64)] := by
  have whole : (Char.ofNat code).toNat = code := toNat_ofNat_of_valid (by omega)
  have notOne : ¬code < 0x80 := by omega
  have notTwo : ¬code < 0x800 := by omega
  simp only [encodeChar, whole, if_neg notOne, if_neg notTwo, if_neg (Nat.not_lt.mpr low)]

theorem ofNat_of_eq_toNat {byte : UInt8} {number : Nat} (same : number = byte.toNat) :
    UInt8.ofNat number = byte := by
  rw [same, UInt8.ofNat_toNat]

theorem bounds_of_isTail {byte : UInt8} (tail : ¬(!isTail byte) = true) :
    0x80 ≤ byte.toNat ∧ byte.toNat ≤ 0xBF := by
  simpa [isTail] using tail

/-- A character that is read is written as the bytes that it was read from. -/
theorem encodeChar_append_of_start {first : UInt8} {rest after : Bytes} {value : Char}
    (found : start first rest = .char value after) :
    encodeChar value ++ after = first :: rest := by
  revert found
  fun_cases start first rest <;> intro found <;> cases found
  case case1 ascii =>
    rw [encodeChar_ofNat_of_one ascii, UInt8.ofNat_toNat, List.singleton_append]
  case case5 lead leads second inRange two =>
    have bounds := lead?_cases leads
    rw [encodeChar_ofNat_of_two, @ofNat_of_eq_toNat first, @ofNat_of_eq_toNat second]
    · rfl
    all_goals rw [tailBits]; omega
  case case8 lead leads second inRange notTwo third isTail three =>
    have bounds := lead?_cases leads
    have tail := bounds_of_isTail isTail
    rw [encodeChar_ofNat_of_three, @ofNat_of_eq_toNat first, @ofNat_of_eq_toNat second,
      @ofNat_of_eq_toNat third]
    · rfl
    all_goals simp only [tailBits]; omega
  case case11 lead leads second inRange notTwo third isTail notThree fourth isTailLast =>
    have bounds := lead?_cases leads
    have tail := bounds_of_isTail isTail
    have last := bounds_of_isTail isTailLast
    rw [encodeChar_ofNat_of_four, @ofNat_of_eq_toNat first, @ofNat_of_eq_toNat second,
      @ofNat_of_eq_toNat third, @ofNat_of_eq_toNat fourth]
    · rfl
    all_goals simp only [tailBits]; omega

/-- What is read as characters is their encoding. -/
theorem encode_of_decodeFrom {bound position : Nat} {bytes : Bytes}
    (read : decodeFrom bound position bytes = .ok chars) : encode chars = bytes := by
  induction bound generalizing position bytes chars with
  | zero => cases read
  | succ bound ih =>
      cases bytes with
      | nil =>
          cases read
          rfl
      | cons first rest =>
          rw [decodeFrom] at read
          cases began : start first rest with
          | broken length after =>
              rw [began] at read
              cases read
          | unfinished =>
              rw [began] at read
              cases read
          | char value after =>
              simp only [began] at read
              cases others : decodeFrom bound (position + (encodeChar value).length) after with
              | error fault =>
                  rw [others, map_error] at read
                  cases read
              | ok following =>
                  rw [others, map_ok] at read
                  cases read
                  rw [encode_cons, ih others, encodeChar_append_of_start began]

/-- Bytes are the encoding of the characters that they are read as. -/
theorem encode_of_decode {bytes : Bytes} (read : decode bytes = .ok chars) :
    encode chars = bytes :=
  encode_of_decodeFrom read

/-! ## Cutting at a byte -/

/-- What a stretch of bytes begins with, with more bytes after it. -/
def Start.append : Start → (more : Bytes) → Start
  | .char value rest, more => .char value (rest ++ more)
  | .broken length rest, more => .broken length (rest ++ more)
  | .unfinished, _ => .unfinished

/-- More bytes change only what is unfinished. -/
theorem start_append (first : UInt8) (rest more : Bytes) : start first rest = .unfinished ∨
    start first (rest ++ more) = (start first rest).append more := by
  fun_cases start first rest
  case case3 | case6 | case9 => exact .inl rfl
  all_goals exact .inr (by simp [start, Start.append, *])

/-- A character of which bytes are missing is unfinished. -/
theorem start_of_missing {first : UInt8} {others missing : Bytes}
    (whole : encodeChar char = first :: (others ++ missing)) (lacking : missing ≠ []) :
    start first others = .unfinished := by
  obtain ⟨begins, following, bytes, started⟩ := start_encodeChar char []
  cases whole.symm.trans bytes
  rw [List.append_nil] at started
  obtain unfinished | known := start_append first others missing
  · exact unfinished
  · rw [started] at known
    cases found : start first others with
    | char value rest =>
        rw [found] at known
        have nothing : rest ++ missing = [] := (Start.char.inj known).2.symm
        exact absurd (List.append_eq_nil_iff.mp nothing).2 lacking
    | broken length rest =>
        rw [found] at known
        cases known
    | unfinished => rfl

/-- Nothing is read where the last character is cut. -/
theorem decode_of_missing {part missing : Bytes} (whole : encodeChar char = part ++ missing)
    (begun : part ≠ []) (lacking : missing ≠ []) :
    decode (encode chars ++ part) = .error ⟨(encode chars).length, none⟩ := by
  obtain ⟨bound, enough, read⟩ := decode_encode_append chars part
  obtain ⟨bound, rfl⟩ := Nat.exists_eq_succ_of_ne_zero (Nat.ne_zero_of_lt enough)
  obtain ⟨first, others, rfl⟩ := List.exists_cons_of_ne_nil begun
  rw [read, decodeFrom, start_of_missing whole lacking, map_error]

/-- The first bytes of an encoding are those of some characters and a part of the next. -/
theorem exists_take_encode {limit : Nat} (longer : limit < (encode chars).length) :
    ∃ shown next rest part missing, chars = shown ++ next :: rest ∧
      encodeChar next = part ++ missing ∧ missing ≠ [] ∧
      (encode chars).take limit = encode shown ++ part := by
  induction chars generalizing limit with
  | nil => cases longer
  | cons char others ih =>
      rw [encode_cons, List.length_append] at longer
      by_cases fits : (encodeChar char).length ≤ limit
      · obtain ⟨shown, next, rest, part, missing, rfl, whole, cut, front⟩ :=
          @ih (limit - (encodeChar char).length) (by omega)
        refine ⟨char :: shown, next, rest, part, missing, rfl, whole, cut, ?_⟩
        rw [encode_cons, List.take_append, List.take_of_length_le fits, front, encode_cons,
          List.append_assoc]
      · refine ⟨[], char, others, (encodeChar char).take limit, (encodeChar char).drop limit, rfl,
          (List.take_append_drop ..).symm, ?_, ?_⟩
        · rw [Ne, List.drop_eq_nil_iff]
          exact fits
        · rw [encode_cons, List.take_append_of_le_length (by omega)]
          rfl

/-- Of an encoding that is cut, the characters that fit are read if they end with the cut. -/
theorem decode_take_encode {limit : Nat} (longer : limit < (encode chars).length) :
    ∃ shown next rest, chars = shown ++ next :: rest ∧ (encode shown).length ≤ limit ∧
      limit < (encode (shown ++ [next])).length ∧
      decode ((encode chars).take limit) = if (encode shown).length = limit then .ok shown
        else .error ⟨(encode shown).length, none⟩ := by
  obtain ⟨shown, next, rest, part, missing, rfl, whole, cut, front⟩ := exists_take_encode longer
  have limit_eq : limit = (encode shown).length + part.length := by
    rw [← List.length_append, ← front, List.length_take, Nat.min_eq_left (Nat.le_of_lt longer)]
  have positive := List.length_pos_iff.mpr cut
  refine ⟨shown, next, rest, rfl, by omega, ?_, ?_⟩
  · rw [encode_append, encode_cons, whole, encode_nil, List.append_nil, List.length_append,
      List.length_append]
    omega
  · rw [front]
    by_cases begun : part = []
    · rw [begun, List.append_nil, decode_encode, if_pos (by simp [limit_eq, begun])]
    · have nonempty := List.length_pos_iff.mpr begun
      rw [decode_of_missing whole begun cut, if_neg (by omega)]

/-- Characters are cut where the bytes of the first of them end. -/
theorem dropBytes?_length_encode (front back : List Char) :
    dropBytes? (encode front).length (front ++ back) = some back := by
  induction front with
  | nil => simp [dropBytes?]
  | cons char front ih =>
      have positive := length_encodeChar_pos char
      rw [encode_cons, List.length_append]
      obtain ⟨count, total⟩ : ∃ count,
          (encodeChar char).length + (encode front).length = count + 1 :=
        ⟨_, (Nat.sub_add_cancel (by omega)).symm⟩
      have left : count + 1 - (encodeChar char).length = (encode front).length := by omega
      rw [total, List.cons_append, dropBytes?, if_pos (by omega), left, ih]

@[simp] theorem length_offsets (start : Nat) (chars : List Char) :
    (offsets start chars).length = chars.length := by
  induction chars generalizing start with
  | nil => rfl
  | cons char rest ih => simp [offsets, ih]

/-- A character begins where the bytes of those before it end. -/
theorem getElem?_offsets (start : Nat) {front back : List Char} (nonempty : back ≠ []) :
    (offsets start (front ++ back))[front.length]? = some (start + (encode front).length) := by
  induction front generalizing start with
  | nil =>
      obtain ⟨char, rest, rfl⟩ := List.exists_cons_of_ne_nil nonempty
      rfl
  | cons char front ih =>
      rw [List.cons_append, offsets, List.length_cons, List.getElem?_cons_succ, ih, encode_cons,
        List.length_append, Nat.add_assoc]

end TickWire.Utf8

theorem TickWire.textBytes_injective {one two : String} (same : textBytes one = textBytes two) :
    one = two :=
  String.toList_inj.mp (Utf8.encode_injective same)
