set_option autoImplicit false

/-!
Bytes as letters, digits, dashes and underscores: three bytes make four characters, a last group is
shorter, nothing is filled up. A text is read only if it is what some bytes are written as.
-/
namespace JourneyPlanner.Base64Url

/-- The character for six bits. -/
def symbol (n : Nat) : Char :=
  if n < 26 then Char.ofNat ('A'.toNat + n)
  else if n < 52 then Char.ofNat ('a'.toNat + (n - 26))
  else if n < 62 then Char.ofNat ('0'.toNat + (n - 52))
  else if n = 62 then '-'
  else '_'

def value? (c : Char) : Option Nat :=
  if 'A' ≤ c ∧ c ≤ 'Z' then some (c.toNat - 'A'.toNat)
  else if 'a' ≤ c ∧ c ≤ 'z' then some (c.toNat - 'a'.toNat + 26)
  else if '0' ≤ c ∧ c ≤ '9' then some (c.toNat - '0'.toNat + 52)
  else if c = '-' then some 62
  else if c = '_' then some 63
  else none

theorem value?_symbol {n : Nat} (small : n < 64) : value? (symbol n) = some n := by
  have all : ∀ m ∈ List.range 64, value? (symbol m) = some m := by decide
  exact all n (List.mem_range.mpr small)

def write : List UInt8 → List Char
  | a :: b :: c :: rest =>
      let n := (a.toNat * 256 + b.toNat) * 256 + c.toNat
      symbol (n / 262144) :: symbol (n / 4096 % 64) :: symbol (n / 64 % 64) :: symbol (n % 64) ::
        write rest
  | [a, b] =>
      let n := (a.toNat * 256 + b.toNat) * 4
      [symbol (n / 4096), symbol (n / 64 % 64), symbol (n % 64)]
  | [a] =>
      let n := a.toNat * 16
      [symbol (n / 64), symbol (n % 64)]
  | [] => []

/-- The unused bits of a last group are zero. -/
def read? : List Char → Option (List UInt8)
  | p :: q :: r :: s :: rest => do
      let p ← value? p
      let q ← value? q
      let r ← value? r
      let s ← value? s
      let n := ((p * 64 + q) * 64 + r) * 64 + s
      let bytes ← read? rest
      return UInt8.ofNat (n / 65536) :: UInt8.ofNat (n / 256) :: UInt8.ofNat n :: bytes
  | [p, q, r] => do
      let p ← value? p
      let q ← value? q
      let r ← value? r
      let n := (p * 64 + q) * 64 + r
      if n % 4 = 0 then return [UInt8.ofNat (n / 1024), UInt8.ofNat (n / 4)] else none
  | [p, q] => do
      let p ← value? p
      let q ← value? q
      let n := p * 64 + q
      if n % 16 = 0 then return [UInt8.ofNat (n / 16)] else none
  | [_] => none
  | [] => some []

/-- What is written reads back. -/
theorem read?_write (bytes : List UInt8) : read? (write bytes) = some bytes := by
  fun_induction write bytes with
  | case1 a b c rest n ih =>
    have ha := a.toNat_lt
    have hb := b.toNat_lt
    have hc := c.toNat_lt
    have first : n / 262144 < 64 := by omega
    rw [read?]
    simp only [value?_symbol first, value?_symbol (Nat.mod_lt _ (by decide : 0 < 64)), ih,
      Option.bind_eq_bind, Option.bind_some, Option.pure_def]
    have joined : ((n / 262144 * 64 + n / 4096 % 64) * 64 + n / 64 % 64) * 64 + n % 64 = n := by
      omega
    have high : UInt8.ofNat (n / 65536) = a := by
      apply UInt8.toNat_inj.mp
      rw [UInt8.toNat_ofNat']
      omega
    have middle : UInt8.ofNat (n / 256) = b := by
      apply UInt8.toNat_inj.mp
      rw [UInt8.toNat_ofNat']
      omega
    have low : UInt8.ofNat n = c := by
      apply UInt8.toNat_inj.mp
      rw [UInt8.toNat_ofNat']
      omega
    rw [joined, high, middle, low]
  | case2 a b n =>
    have ha := a.toNat_lt
    have hb := b.toNat_lt
    have first : n / 4096 < 64 := by omega
    rw [read?]
    simp only [value?_symbol first, value?_symbol (Nat.mod_lt _ (by decide : 0 < 64)),
      Option.bind_eq_bind, Option.bind_some, Option.pure_def]
    have joined : (n / 4096 * 64 + n / 64 % 64) * 64 + n % 64 = n := by omega
    have high : UInt8.ofNat (n / 1024) = a := by
      apply UInt8.toNat_inj.mp
      rw [UInt8.toNat_ofNat']
      omega
    have low : UInt8.ofNat (n / 4) = b := by
      apply UInt8.toNat_inj.mp
      rw [UInt8.toNat_ofNat']
      omega
    rw [joined, high, low, if_pos (by omega)]
  | case3 a n =>
    have ha := a.toNat_lt
    have first : n / 64 < 64 := by omega
    rw [read?]
    simp only [value?_symbol first, value?_symbol (Nat.mod_lt _ (by decide : 0 < 64)),
      Option.bind_eq_bind, Option.bind_some, Option.pure_def]
    have joined : n / 64 * 64 + n % 64 = n := by omega
    have whole : UInt8.ofNat (n / 16) = a := by
      apply UInt8.toNat_inj.mp
      rw [UInt8.toNat_ofNat']
      omega
    rw [joined, whole, if_pos (by omega)]
  | case4 => rfl

end JourneyPlanner.Base64Url
