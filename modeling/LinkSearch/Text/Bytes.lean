/-!
# Bytes as text

The characters that bytes stand for in UTF-8.  Bytes that stand for none are shown as a replacement
character: one for each byte that begins no character, and one for the beginning of a character that
is not finished.
-/

namespace LinkSearch.Text

/-- Stands for bytes that are no character. -/
def replacement : Char := '\ufffd'

/-- A character of which some bytes are missing. -/
structure Begun where
  /-- What the bytes so far add up to. -/
  value : Nat
  /-- How many bytes are missing, after the next one. -/
  further : Nat
  /-- The least that the next byte may be. -/
  least : Nat
  /-- The greatest that the next byte may be. -/
  greatest : Nat

/-- The character that a byte is, or the one that it begins. -/
def firstByte (byte : Nat) : Char ⊕ Begun :=
  if byte < 0x80 then .inl (.ofNat byte)
  else if byte < 0xc2 ∨ 0xf4 < byte then .inl replacement
  else if byte < 0xe0 then .inr ⟨byte - 0xc0, 0, 0x80, 0xbf⟩
  else if byte < 0xf0 then
    .inr ⟨byte - 0xe0, 1, if byte = 0xe0 then 0xa0 else 0x80, if byte = 0xed then 0x9f else 0xbf⟩
  else
    .inr ⟨byte - 0xf0, 2, if byte = 0xf0 then 0x90 else 0x80, if byte = 0xf4 then 0x8f else 0xbf⟩

/-- The characters of some bytes, with what has begun before them. -/
def charsAfter : Option Begun → List UInt8 → List Char
  | none, [] => []
  | some _, [] => [replacement]
  | begun?, byte :: rest =>
    let afresh : List Char :=
      match firstByte byte.toNat with
      | .inl c => c :: charsAfter none rest
      | .inr begun => charsAfter (some begun) rest
    match begun? with
    | none => afresh
    | some begun =>
      let value := 64 * begun.value + byte.toNat % 64
      if byte.toNat < begun.least ∨ begun.greatest < byte.toNat then replacement :: afresh
      else
        match begun.further with
        | 0 => .ofNat value :: charsAfter none rest
        | further + 1 => charsAfter (some ⟨value, further, 0x80, 0xbf⟩) rest

/-- The text that bytes are shown as. -/
def shownBytes (bytes : List UInt8) : String :=
  String.ofList (charsAfter none bytes)

end LinkSearch.Text
