import CharStream.Encoding.SingleByte.Tables

/-!
# Encodings of one byte a character

Bytes below 80 are ASCII. What the other 128 stand for is a table of code points, where 0 marks a
byte without a character. Writing a character looks it up in the same table.

Main results: `decode_encode`, that every character that can be written is read back.
-/

namespace CharStream.Encoding

/-- The encodings whose characters are single bytes. -/
inductive SingleByte where
  | ibm866 | iso8859_2 | iso8859_3 | iso8859_4 | iso8859_5 | iso8859_6 | iso8859_7
  | iso8859_8 | iso8859_8i | iso8859_10 | iso8859_13 | iso8859_14 | iso8859_15
  | iso8859_16 | koi8r | koi8u | macintosh | windows1250 | windows1251 | windows1252
  | windows1253 | windows1254 | windows1255 | windows1256 | windows1257 | windows1258
  | windows874 | macCyrillic | userDefined
deriving DecidableEq

namespace SingleByte

/-- The name of the encoding. -/
def name : SingleByte → String
  | .ibm866 => "IBM866"
  | .iso8859_2 => "ISO-8859-2"
  | .iso8859_3 => "ISO-8859-3"
  | .iso8859_4 => "ISO-8859-4"
  | .iso8859_5 => "ISO-8859-5"
  | .iso8859_6 => "ISO-8859-6"
  | .iso8859_7 => "ISO-8859-7"
  | .iso8859_8 => "ISO-8859-8"
  | .iso8859_8i => "ISO-8859-8-I"
  | .iso8859_10 => "ISO-8859-10"
  | .iso8859_13 => "ISO-8859-13"
  | .iso8859_14 => "ISO-8859-14"
  | .iso8859_15 => "ISO-8859-15"
  | .iso8859_16 => "ISO-8859-16"
  | .koi8r => "KOI8-R"
  | .koi8u => "KOI8-U"
  | .macintosh => "macintosh"
  | .windows1250 => "windows-1250"
  | .windows1251 => "windows-1251"
  | .windows1252 => "windows-1252"
  | .windows1253 => "windows-1253"
  | .windows1254 => "windows-1254"
  | .windows1255 => "windows-1255"
  | .windows1256 => "windows-1256"
  | .windows1257 => "windows-1257"
  | .windows1258 => "windows-1258"
  | .windows874 => "windows-874"
  | .macCyrillic => "x-mac-cyrillic"
  | .userDefined => "x-user-defined"

/-- The code points of the bytes from 80 on. -/
def table : SingleByte → Array Nat
  | .ibm866 => ibm866Table
  | .iso8859_2 => iso8859_2Table
  | .iso8859_3 => iso8859_3Table
  | .iso8859_4 => iso8859_4Table
  | .iso8859_5 => iso8859_5Table
  | .iso8859_6 => iso8859_6Table
  | .iso8859_7 => iso8859_7Table
  | .iso8859_8 => iso8859_8Table
  | .iso8859_8i => iso8859_8Table
  | .iso8859_10 => iso8859_10Table
  | .iso8859_13 => iso8859_13Table
  | .iso8859_14 => iso8859_14Table
  | .iso8859_15 => iso8859_15Table
  | .iso8859_16 => iso8859_16Table
  | .koi8r => koi8rTable
  | .koi8u => koi8uTable
  | .macintosh => macintoshTable
  | .windows1250 => windows1250Table
  | .windows1251 => windows1251Table
  | .windows1252 => windows1252Table
  | .windows1253 => windows1253Table
  | .windows1254 => windows1254Table
  | .windows1255 => windows1255Table
  | .windows1256 => windows1256Table
  | .windows1257 => windows1257Table
  | .windows1258 => windows1258Table
  | .windows874 => windows874Table
  | .macCyrillic => macCyrillicTable
  | .userDefined => userDefinedTable

/-! ## Reading and writing -/

/-- The character of a byte. -/
def decode (t : SingleByte) (b : UInt8) : Option Char :=
  if b < 0x80 then some (Char.ofNat b.toNat)
  else match t.table[b.toNat - 0x80]? with
    | none | some 0 => none
    | some code => some (Char.ofNat code)

/-- The byte of a character. -/
def encode (t : SingleByte) (c : Char) : Option UInt8 :=
  if c.toNat < 0x80 then some c.toNat.toUInt8
  else (t.table.findIdx? (· == c.toNat)).map fun i => (0x80 + i).toUInt8

theorem size_table (t : SingleByte) : t.table.size = 128 := by
  cases t <;> rfl

/-- Every character that can be written is read back. -/
theorem decode_encode {t : SingleByte} {c : Char} {b : UInt8} (h : t.encode c = some b) :
    t.decode b = some c := by
  unfold encode at h
  split at h
  · next hc =>
    have hb : b.toNat = c.toNat := by simp at h; simp [← h]; omega
    have : b < 0x80 := by rw [UInt8.lt_iff_toNat_lt, hb]; exact hc
    simp [decode, this, hb, Char.ofNat_toNat]
  · next hc =>
    obtain ⟨i, hi, rfl⟩ := Option.map_eq_some_iff.1 h
    obtain ⟨hlt, hv, -⟩ := Array.findIdx?_eq_some_iff_getElem.1 hi
    have hs := size_table t
    have hn : (0x80 + i).toUInt8.toNat = 0x80 + i := by simp; omega
    have hb : ¬ (0x80 + i).toUInt8 < 0x80 := by
      rw [UInt8.lt_iff_toNat_lt, hn]; simp
    have hv : t.table[i] = c.toNat := by simpa using hv
    have hz : c.toNat ≠ 0 := by omega
    simp only [decode, hb, if_false, hn, Nat.add_sub_cancel_left, Array.getElem?_eq_getElem hlt, hv]
    rw [Char.ofNat_toNat]

end SingleByte

end CharStream.Encoding
