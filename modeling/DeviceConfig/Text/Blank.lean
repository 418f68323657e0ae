/-!
Blank characters and what is done with them: trimming, cutting into words.
-/

namespace DeviceConfig.Text

/-- The characters with the Unicode property White_Space. -/
def isBlank (c : Char) : Bool :=
  let n := c.toNat
  (9 ≤ n && n ≤ 13) || n == 0x20 || n == 0x85 || n == 0xA0 || n == 0x1680 ||
    (0x2000 ≤ n && n ≤ 0x200A) || n == 0x2028 || n == 0x2029 || n == 0x202F ||
    n == 0x205F || n == 0x3000

def trimStart (text : List Char) : List Char := text.dropWhile isBlank

def trimEnd (text : List Char) : List Char := (text.reverse.dropWhile isBlank).reverse

def trim (text : List Char) : List Char := trimEnd (trimStart text)

/-- The maximal runs of characters that are not blank. -/
def words : List Char → List (List Char)
  | [] => []
  | c :: rest =>
    if isBlank c then words rest
    else
      match rest with
      | [] => [[c]]
      | next :: _ =>
        if isBlank next then [c] :: words rest
        else
          match words rest with
          | [] => [[c]]
          | word :: more => (c :: word) :: more

def byteLength (text : List Char) : Nat := text.foldl (fun sum c => sum + c.utf8Size) 0

end DeviceConfig.Text
