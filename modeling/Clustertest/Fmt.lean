import Mathlib.Data.Nat.Digits

/-!
# Go values the cluster code formats

The three pieces of Go's standard library that the docker cluster's data passes through:

* `error` values, by their `Error()` text, with `errors.New` and the `fmt.Errorf("...: %w")`
  wrapping that every error path of `NewNodes` applies;
* the `%d` rendering of a node ID inside its container name. The names of two nodes differ
  exactly when their IDs do, because the decimal rendering is injective (`repr_injective`):
  reading the digits back recovers the number;
* base64 `StdEncoding`, which turns the run's PEM certificates into the node agent's flags.
-/

namespace Clustertest

/-- A Go `error`, by the text its `Error()` method returns. -/
structure Error where
  text : String
  deriving DecidableEq, Repr

namespace Error

/-- `errors.New(text)`. -/
def new (text : String) : Error := ⟨text⟩

/-- `fmt.Errorf(context + ": %w", err)`. -/
def wrap (context : String) (err : Error) : Error := ⟨context ++ ": " ++ err.text⟩

/-- `fmt.Errorf(context + ": %w", err)` where `err` may be `nil`, which `%w` prints as
`%!w(<nil>)`. -/
def wrapNil (context : String) : Option Error → Error
  | some err => wrap context err
  | none => ⟨context ++ ": %!w(<nil>)"⟩

end Error

/-- Go's `%q` on a string of printable ASCII characters, the form Docker's container IDs take:
the string in double quotes, with `"` and `\` escaped. -/
def quote (s : String) : String :=
  ⟨'"' :: s.data.flatMap (fun c => if c = '"' ∨ c = '\\' then ['\\', c] else [c]) ++ ['"']⟩

/-! ## Decimal numerals

`fmt`'s `%d` of a non-negative `int`, and `strconv.Itoa`, print the decimal digits of the number,
most significant first: `Nat.repr`. -/

/-- The value of a decimal digit character. -/
def digitValue (d : Char) : Nat := d.toNat - '0'.toNat

/-- One step of reading a decimal numeral, most significant digit first. -/
def readDigit (n : Nat) (d : Char) : Nat := 10 * n + digitValue d

theorem digitValue_digitChar : ∀ k < 10, digitValue (Nat.digitChar k) = k := by decide

/-- Reading the last digit of `n` after the digits of `n / 10` gives `n`. -/
theorem readDigit_digitChar (n : Nat) : readDigit (n / 10) (Nat.digitChar (n % 10)) = n := by
  rw [readDigit, digitValue_digitChar _ (Nat.mod_lt _ (by decide))]
  omega

/-- Reading back what `Nat.toDigitsCore` prepends to `ds` continues the reading of `ds` from
`n`, given the fuel the core loop needs. -/
theorem foldl_toDigitsCore (fuel n : Nat) (ds : List Char) (h : n < fuel) :
    (Nat.toDigitsCore 10 fuel n ds).foldl readDigit 0 = ds.foldl readDigit n := by
  induction fuel generalizing n ds with
  | zero => omega
  | succ fuel ih =>
    simp only [Nat.toDigitsCore]
    split
    · rename_i h0
      rw [List.foldl_cons, ← h0, readDigit_digitChar]
    · rw [ih _ _ (by omega), List.foldl_cons, readDigit_digitChar]

/-- Reading the decimal rendering of `n` gives `n` back. -/
theorem foldl_readDigit_repr (n : Nat) : (Nat.repr n).data.foldl readDigit 0 = n :=
  foldl_toDigitsCore _ _ [] (Nat.lt_succ_self n)

/-- **Distinct numbers render to distinct decimal numerals.** -/
theorem repr_injective : Function.Injective Nat.repr := fun a b h => by
  rw [← foldl_readDigit_repr a, ← foldl_readDigit_repr b, h]

/-! ## Base64 -/

/-- The alphabet of base64 `StdEncoding`. -/
def base64Alphabet : List Char :=
  "ABCDEFGHIJKLMNOPQRSTUVWXYZabcdefghijklmnopqrstuvwxyz0123456789+/".toList

/-- `encode[v & 0x3F]`: the character for the low six bits of `v`. -/
def base64Char (v : Nat) : Char := base64Alphabet.getD (v % 64) '='

/-- The characters of `StdEncoding.EncodeToString`: each three bytes as four characters, the
last one or two bytes padded with `=`. -/
def base64Chars : List UInt8 → List Char
  | a :: b :: c :: rest =>
    let v := a.toNat * 65536 + b.toNat * 256 + c.toNat
    [base64Char (v / 262144), base64Char (v / 4096), base64Char (v / 64), base64Char v] ++
      base64Chars rest
  | [a, b] =>
    let v := a.toNat * 65536 + b.toNat * 256
    [base64Char (v / 262144), base64Char (v / 4096), base64Char (v / 64), '=']
  | [a] =>
    let v := a.toNat * 65536
    [base64Char (v / 262144), base64Char (v / 4096), '=', '=']
  | [] => []

/-- `base64.StdEncoding.EncodeToString(src)`. -/
def encodeToString (src : List UInt8) : String := ⟨base64Chars src⟩

example : encodeToString [77, 97, 110, 77, 97] = "TWFuTWE=" := by decide

end Clustertest
