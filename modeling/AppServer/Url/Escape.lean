import AppServer.Http.Form

/-!
# Escapes of URLs

The bytes of characters that a part of a URL may not hold, written with two
hexadecimal digits behind percent signs.
-/

namespace AppServer.Url

/-- A text with the bytes of some characters, and all beyond ASCII, written behind percent signs. -/
def percentEncode (escaped : List Char) (cs : List Char) : List Char :=
  cs.flatMap fun c =>
    if c.toNat < 0x20 || 0x7F ≤ c.toNat || c ∈ escaped then
      (Bytes.ofText c.toString).flatMap fun b =>
        ['%', Char.ofNat (Http.Form.upperHex (b.toNat / 16)).toNat,
          Char.ofNat (Http.Form.upperHex (b.toNat % 16)).toNat]
    else [c]

end AppServer.Url
