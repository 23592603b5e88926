/-
Module: PointerRouting.Listing
Purpose: The two forms that every listing of names, pointers and bits is made of: texts with a
  separator between neighbours, and words in hexadecimal.
Main exports: joined, hexText
-/

namespace PointerRouting

/-- The texts one after another with the separator between neighbours. -/
def joined (separator : String) : List String → String
  | [] => ""
  | [text] => text
  | text :: rest => text ++ separator ++ joined separator rest

/-- A word in lower-case hexadecimal after `0x`, filled up with zeros to at least `width`
digits. -/
def hexText (width : Nat) (bits : BitVec 32) : String :=
  let digits := Nat.toDigits 16 bits.toNat
  "0x" ++ String.ofList (List.replicate (width - digits.length) '0' ++ digits)

end PointerRouting
