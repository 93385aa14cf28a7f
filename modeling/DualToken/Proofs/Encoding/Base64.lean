import Mathlib.Data.List.Nodup
import DualToken.Encoding.Base64

/-!
# Reading base 64 gives back what was written

Writing goes through six-bit values: the bytes are cut into such values (`values`), and each value
is written as its symbol (`encode_eq_map_symbol`). Both passages can be undone, so reading the
symbols of a list of bytes gives the bytes (`decode?_encode`). Nothing else is read: what reads as
bytes is the very text that they are written as (`encode_of_decode?`).
-/

set_option autoImplicit false

namespace DualToken.Base64

/-! ## Symbols and their values -/

/-- A symbol has the value that it was made for. -/
@[simp] theorem Alphabet.value?_symbol (alphabet : Alphabet) (value : Fin 64) :
    alphabet.value? (alphabet.symbol value) = some value := by
  obtain ⟨⟨⟨symbols⟩, size⟩, distinct⟩ := alphabet
  have nodup : symbols.Nodup := distinct
  have length : symbols.length = 64 := size
  have within : value.val < symbols.length := length.symm ▸ value.isLt
  have found : symbols.finIdxOf? (symbols.get ⟨value.val, within⟩) = some ⟨value.val, within⟩ := by
    refine List.finIdxOf?_eq_some_iff.2 ⟨rfl, fun earlier before same => ?_⟩
    have equal : earlier = ⟨value.val, within⟩ := nodup.injective_get same
    exact absurd before (by simp [equal])
  simp only [value?, symbol, Vector.finIdxOf?_mk, List.finIdxOf?_toArray]
  simpa using congrArg (Option.map (Fin.cast size)) found

/-- The symbol of a value that was read is the character it was read from. -/
theorem Alphabet.symbol_of_value? {alphabet : Alphabet} {character : Char} {value : Fin 64}
    (read : alphabet.value? character = some value) : alphabet.symbol value = character := by
  obtain ⟨⟨⟨symbols⟩, size⟩, distinct⟩ := alphabet
  simp only [value?, Vector.finIdxOf?_mk, List.finIdxOf?_toArray, Option.map_eq_some_iff] at read
  obtain ⟨position, found, rfl⟩ := read
  exact (List.finIdxOf?_eq_some_iff.1 found).1

/-- Characters that are read one by one are the symbols of the values that they are read as. -/
theorem Alphabet.map_symbol_of_mapM {alphabet : Alphabet} {characters : List Char}
    {values : List (Fin 64)} (read : characters.mapM alphabet.value? = some values) :
    values.map alphabet.symbol = characters := by
  induction characters generalizing values with
  | nil =>
    obtain rfl : [] = values := by simpa using read
    rfl
  | cons character others ih =>
    simp only [List.mapM_cons, Option.bind_eq_bind, Option.bind_eq_some_iff, Option.pure_def,
      Option.some.injEq] at read
    obtain ⟨value, first, rest, following, rfl⟩ := read
    rw [List.map_cons, symbol_of_value? first, ih following]

/-- Reading symbols one by one gives the values that they were made for. -/
theorem Alphabet.mapM_value?_map_symbol (alphabet : Alphabet) (values : List (Fin 64)) :
    (values.map alphabet.symbol).mapM alphabet.value? = some values := by
  induction values with
  | nil => rfl
  | cons value others ih => simp [ih]

/-- A symbol is a character of the alphabet. -/
theorem Alphabet.symbol_mem (alphabet : Alphabet) (value : Fin 64) :
    alphabet.symbol value ∈ alphabet.symbols.toList := by
  simp [symbol]

/-! ## Bytes and six-bit values -/

/-- The six-bit values that a list of bytes is cut into. -/
def values : List UInt8 → List (Fin 64)
  | [] => []
  | [first] => [high6 first, low2high4 first 0]
  | [first, second] => [high6 first, low2high4 first second, low4high2 second 0]
  | first :: second :: third :: rest =>
    high6 first :: low2high4 first second :: low4high2 second third :: low6 third :: values rest

theorem byte62_high6 (first second : UInt8) :
    byte62 (high6 first) (low2high4 first second) = first := by
  apply UInt8.toNat_inj.mp
  have := first.toNat_lt
  have := second.toNat_lt
  simp only [byte62, high6, low2high4, UInt8.toNat_ofNat']
  omega

theorem byte44_low2high4 (first second third : UInt8) :
    byte44 (low2high4 first second) (low4high2 second third) = second := by
  apply UInt8.toNat_inj.mp
  have := second.toNat_lt
  have := third.toNat_lt
  simp only [byte44, low2high4, low4high2, UInt8.toNat_ofNat']
  omega

theorem byte26_low4high2 (second third : UInt8) :
    byte26 (low4high2 second third) (low6 third) = third := by
  apply UInt8.toNat_inj.mp
  have := third.toNat_lt
  simp only [byte26, low4high2, low6, UInt8.toNat_ofNat']
  omega

/-- The unused bits of the last value are zero. -/
theorem ofValues?_values (bytes : List UInt8) : ofValues? (values bytes) = some bytes := by
  induction bytes using values.induct with
  | case1 => rfl
  | case2 first =>
    have unused : (low2high4 first 0).val % 16 = 0 := by simp [low2high4]
    simp only [values, ofValues?, unused, if_true, byte62_high6]
  | case3 first second =>
    have unused : (low4high2 second 0).val % 4 = 0 := by simp [low4high2]
    simp only [values, ofValues?, unused, if_true, byte62_high6, byte44_low2high4]
  | case4 first second third rest ih =>
    simp only [values, ofValues?, ih, Option.map_some, byte62_high6, byte44_low2high4,
      byte26_low4high2]

theorem high6_byte62 (first second : Fin 64) : high6 (byte62 first second) = first := by
  apply Fin.ext
  simp only [byte62, high6, UInt8.toNat_ofNat']
  omega

theorem low2high4_byte62_byte44 (first second third : Fin 64) :
    low2high4 (byte62 first second) (byte44 second third) = second := by
  apply Fin.ext
  simp only [byte62, byte44, low2high4, UInt8.toNat_ofNat']
  omega

theorem low4high2_byte44_byte26 (second third fourth : Fin 64) :
    low4high2 (byte44 second third) (byte26 third fourth) = third := by
  apply Fin.ext
  simp only [byte44, byte26, low4high2, UInt8.toNat_ofNat']
  omega

theorem low6_byte26 (third fourth : Fin 64) : low6 (byte26 third fourth) = fourth := by
  apply Fin.ext
  simp only [byte26, low6, UInt8.toNat_ofNat']
  omega

/-- Only the values that bytes are cut into stand for bytes: a lone last value stands for none, and
unused bits have to be zero. -/
theorem values_of_ofValues? {cut : List (Fin 64)} {bytes : List UInt8}
    (read : ofValues? cut = some bytes) : values bytes = cut := by
  induction cut using ofValues?.induct generalizing bytes with
  | case1 =>
    obtain rfl : [] = bytes := Option.some.inj read
    rfl
  | case2 => exact absurd read nofun
  | case3 first second unused =>
    simp only [ofValues?, unused, if_true, Option.some.injEq] at read
    subst read
    have last : low2high4 (byte62 first second) 0 = second := by
      apply Fin.ext
      simp only [byte62, low2high4, UInt8.toNat_ofNat', UInt8.toNat_zero]
      omega
    simp only [values, high6_byte62, last]
  | case4 first second used =>
    simp only [ofValues?, used, if_false] at read
    exact absurd read nofun
  | case5 first second third unused =>
    simp only [ofValues?, unused, if_true, Option.some.injEq] at read
    subst read
    have last : low4high2 (byte44 second third) 0 = third := by
      apply Fin.ext
      simp only [byte44, low4high2, UInt8.toNat_ofNat', UInt8.toNat_zero]
      omega
    simp only [values, high6_byte62, low2high4_byte62_byte44, last]
  | case6 first second third used =>
    simp only [ofValues?, used, if_false] at read
    exact absurd read nofun
  | case7 first second third fourth rest ih =>
    simp only [ofValues?, Option.map_eq_some_iff] at read
    obtain ⟨others, found, rfl⟩ := read
    simp only [values, high6_byte62, low2high4_byte62_byte44, low4high2_byte44_byte26, low6_byte26,
      ih found]

/-! ## Texts -/

variable (alphabet : Alphabet)

/-- Writing is cutting into values and writing each as its symbol. -/
theorem encode_eq_map_symbol (bytes : List UInt8) :
    encode alphabet bytes = (values bytes).map alphabet.symbol := by
  induction bytes using values.induct with
  | case1 => rfl
  | case2 first => rfl
  | case3 first second => rfl
  | case4 first second third rest ih => simp only [encode, values, List.map_cons, ih]

/-- **Reading gives back the bytes that were written.** -/
@[simp] theorem decode?_encode (bytes : List UInt8) :
    decode? alphabet (encode alphabet bytes) = some bytes := by
  rw [decode?, encode_eq_map_symbol, Alphabet.mapM_value?_map_symbol, Option.bind_some,
    ofValues?_values]

/-- **What reads as bytes is how the bytes are written.** Reading is strict, so nothing but the
written form is read. -/
theorem encode_of_decode? {characters : List Char} {bytes : List UInt8}
    (read : decode? alphabet characters = some bytes) : encode alphabet bytes = characters := by
  obtain ⟨cut, symbols, stands⟩ := Option.bind_eq_some_iff.1 read
  rw [encode_eq_map_symbol, values_of_ofValues? stands, Alphabet.map_symbol_of_mapM symbols]

/-- What is written consists of symbols. -/
theorem mem_symbols_of_mem_encode {bytes : List UInt8} {character : Char}
    (member : character ∈ encode alphabet bytes) : character ∈ alphabet.symbols.toList := by
  rw [encode_eq_map_symbol] at member
  obtain ⟨value, -, rfl⟩ := List.mem_map.1 member
  exact alphabet.symbol_mem value

/-- A dot is no symbol of the alphabet that tokens use. -/
theorem dot_notMem_encode_url (bytes : List UInt8) : '.' ∉ encode .url bytes := by
  intro member
  have symbol := mem_symbols_of_mem_encode .url member
  revert symbol
  decide

/-- A dollar is no symbol of the alphabet that password hashes use. -/
theorem dollar_notMem_encode_passwordHash (bytes : List UInt8) :
    '$' ∉ encode .passwordHash bytes := by
  intro member
  have symbol := mem_symbols_of_mem_encode .passwordHash member
  revert symbol
  decide

/-- Every three bytes are written with four symbols, and what is left with one more than its
bytes. -/
theorem length_encode (bytes : List UInt8) :
    (encode alphabet bytes).length = (4 * bytes.length + 2) / 3 := by
  rw [encode_eq_map_symbol, List.length_map]
  induction bytes using values.induct with
  | case1 => rfl
  | case2 first => simp [values]
  | case3 first second => simp [values]
  | case4 first second third rest ih =>
    simp only [values, List.length_cons, ih]
    omega

end DualToken.Base64
