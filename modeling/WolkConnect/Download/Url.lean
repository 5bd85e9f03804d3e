import WolkConnect.Sdk
import Mathlib.Algebra.Ring.Nat

/-!
# URLs of the HTTP downloader

The static functions of `HTTPFileDownloader.cpp`, and the check of `URL_REGEX`.
-/

namespace WolkConnect

def httpPathPrefix : List Char := "http://".toList

def httpsPathPrefix : List Char := "https://".toList

/-! ## The regular expression -/

def isHostChar (c : Char) : Bool := c.isAlphanum || c ∈ "-@:%._+~#=".toList

def isSuffixChar (c : Char) : Bool := c.isAlphanum || c = '(' || c = ')'

def isWordChar (c : Char) : Bool := c.isAlphanum || c = '_'

/-- `\b`. -/
def atWordBoundary (previous : Char) (rest : List Char) : Bool :=
  isWordChar previous != rest.head?.any isWordChar

/-- One to `n` characters of a class. `next` gets the last of them and what follows. -/
def repeated (p : Char → Bool) (next : Char → List Char → Bool) : Nat → List Char → Bool
  | 0, _ => false
  | _ + 1, [] => false
  | n + 1, c :: rest => p c && (next c rest || repeated p next n rest)

def matchesSuffix : List Char → Bool
  | '.' :: rest => repeated isSuffixChar atWordBoundary 6 rest
  | _ => false

/-- From behind `https?:\/\/`. The group at the end of the expression also matches nothing. -/
def matchesHost (text : List Char) : Bool :=
  let host := repeated isHostChar (fun _ rest => matchesSuffix rest) 256
  host text || (List.isPrefixOf? "www.".toList text).any host

/-- `std::regex_search(url, URL_REGEX)`. -/
def passesRegex (url : String) : Bool :=
  url.toList.tails.any fun text =>
    (List.isPrefixOf? httpPathPrefix text).any matchesHost ||
      (List.isPrefixOf? httpsPathPrefix text).any matchesHost

/-! ## Parts of a URL -/

/-- `find(pattern) != npos`. -/
def contains (pattern text : List Char) : Bool := text.tails.any pattern.isPrefixOf

def eraseFirst (pattern : List Char) : List Char → List Char
  | [] => []
  | c :: text =>
    if pattern.isPrefixOf (c :: text) then (c :: text).drop pattern.length
    else c :: eraseFirst pattern text

/-- What the three functions do first to their copy of the URL. -/
def takeOutPrefix (targetPath : String) : List Char :=
  eraseFirst httpsPathPrefix (eraseFirst httpPathPrefix targetPath.toList)

def extractHost (targetPath : String) : List Char :=
  let path := takeOutPrefix targetPath
  if ':' ∈ path then path.takeWhile (· ≠ ':')
  else if '/' ∈ path then path.takeWhile (· ≠ '/')
  else path

/-- `std::stoul` with an `unsigned long` of 64 bits. It throws when there is no number, or one that
is too large, and it takes a negative one modulo 2^64. -/
def stoul (text : List Char) : Option Nat :=
  let text := text.dropWhile fun c => c = ' ' ∨ 9 ≤ c.toNat ∧ c.toNat ≤ 13
  let negative := text.head? = some '-'
  let unsigned := if negative ∨ text.head? = some '+' then text.drop 1 else text
  let digits := unsigned.takeWhile Char.isDigit
  let value := digits.foldl (fun n c => 10 * n + (c.toNat - '0'.toNat)) 0
  if digits = [] ∨ 2 ^ 64 ≤ value then none
  else some (if negative then (2 ^ 64 - value) % 2 ^ 64 else value)

/-- Nothing when `std::stoul` throws. The second argument of `substr` is a length. -/
def extractPort (targetPath : String) : Option UInt16 :=
  let path := takeOutPrefix targetPath
  if ':' ∈ path then
    (stoul ((path.drop (path.idxOf ':' + 1)).take (path.idxOf '/'))).map UInt16.ofNat
  else some 80

def extractUri (targetPath : String) : List Char :=
  let path := takeOutPrefix targetPath
  if '/' ∈ path then path.dropWhile (· ≠ '/') else ['/']

/-! ## The name of the file -/

/-- `name` in `download`: `find` gives 0, which is false, only for a `?` at the start. -/
def fileName (bu : ByteUtils) (url : String) (bytes : Bytes) : String :=
  let name := ((extractUri url).reverse.takeWhile (· ≠ '/')).reverse
  let name := if name.head? = some '?' then name else name.takeWhile (· ≠ '?')
  if name = [] then hexStream (bu.hashSHA256 bytes) else String.ofList name

theorem hexStream_ne_empty {bytes : Bytes} (h : bytes ≠ []) : hexStream bytes ≠ "" := by
  intro hempty
  have hlist := congrArg String.toList hempty
  obtain ⟨b, rest, rfl⟩ := List.exists_cons_of_ne_nil h
  simp [hexStream] at hlist

theorem fileName_ne_empty (bu : ByteUtils) (url : String) (bytes : Bytes) :
    fileName bu url bytes ≠ "" := by
  unfold fileName
  dsimp only
  split_ifs with hquery hempty hempty
  · rw [hempty] at hquery
    simp at hquery
  · intro h
    exact hempty (by simpa using congrArg String.toList h)
  · apply hexStream_ne_empty
    intro hnil
    have hlength := bu.hashSHA256_length bytes
    simp [hnil] at hlength
  · intro h
    exact hempty (by simpa using congrArg String.toList h)

example : fileName tableByteUtils "https://host.com/a/b?c=d" [97] = "b" := by decide +kernel

end WolkConnect
