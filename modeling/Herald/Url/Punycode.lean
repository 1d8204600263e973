/-!
# Punycode

A label with characters outside ASCII is written in ASCII: first its ASCII characters, then the
others in the order of their values, each as the distance from the one before in a variable-length
number of base 36. The thresholds of the digits follow a bias that adapts to the distances. Main fact:
reading a distance leaves less of the digits (`length_of_readDistance?`).
-/

namespace Herald.Url.Punycode

/-- The digit for a value below 36. -/
def digit (n : Nat) : Char :=
  Char.ofNat (if n < 26 then 97 + n else 22 + n)

/-- The threshold of the digit at place `k`. -/
def threshold (k bias : Nat) : Nat :=
  if k ≤ bias + 1 then 1 else if bias + 26 ≤ k then 26 else k - bias

/-- Divides a distance by 35 until it is at most 455, and counts 36 for each time. -/
def scale (distance k : Nat) : Nat × Nat :=
  if 455 < distance then scale (distance / 35) (k + 36) else (distance, k)
  termination_by distance
  decreasing_by exact Nat.div_lt_self (by omega) (by omega)

/-- The bias after a distance has been written. -/
def adapt (distance count : Nat) (isFirst : Bool) : Nat :=
  let halved := if isFirst then distance / 700 else distance / 2
  let (rest, k) := scale (halved + halved / count) 0
  k + 36 * rest / (rest + 38)

/-- A distance as a number of variable length, from the digit at place `k` on. -/
def writeDistance (q k bias : Nat) : List Char :=
  let t := threshold k bias
  if h : t ≤ q ∧ 0 < t then digit (t + (q - t) % (36 - t)) :: writeDistance ((q - t) / (36 - t)) (k + 36) bias
  else [digit q]
  termination_by q
  decreasing_by exact Nat.lt_of_le_of_lt (Nat.div_le_self ..) (by omega)

/-- What has been written so far, and what the next distance starts from. -/
structure Progress where
  output : List Char
  distance : Nat := 0
  bias : Nat := 72
  written : Nat
  isFirst : Bool := true

/-- Walks over a label once and writes a distance wherever the character `n` stands. -/
def Progress.write (label : List Nat) (n : Nat) (p : Progress) : Progress :=
  label.foldl (fun p c =>
    if c < n then { p with distance := p.distance + 1 }
    else if c = n then
      { output := p.output ++ writeDistance p.distance 36 p.bias
        distance := 0
        bias := adapt p.distance (p.written + 1) p.isFirst
        written := p.written + 1
        isFirst := false }
    else p) p

/-- The label in ASCII, without the mark that tells it from a plain one. -/
def encode (label : List Char) : List Char :=
  let basic := label.filter (·.toNat < 128)
  let points := label.map Char.toNat
  let others := ((points.filter (128 ≤ ·)).mergeSort (· ≤ ·)).eraseDups
  let start : Progress := {
    output := if basic.isEmpty then [] else basic ++ ['-']
    written := basic.length }
  let (p, _) := others.foldl (fun (p, seen) n =>
    let p := { p with distance := p.distance + (n - seen) * (p.written + 1) }
    let p := p.write points n
    ({ p with distance := p.distance + 1 }, n + 1)) (start, 128)
  p.output

/-- The value of a digit in lower case. -/
def digitValue? (c : Char) : Option Nat :=
  if 'a' ≤ c ∧ c ≤ 'z' then some (c.toNat - 97)
  else if c.isDigit then some (c.toNat - 22)
  else none

/-- Reads a distance, told the place and the weight of its next digit and the sum of those before:
the distance, and the digits behind it. -/
def readDistance? (bias : Nat) : (k weight sum : Nat) → List Char → Option (Nat × List Char)
  | _, _, _, [] => none
  | k, weight, sum, c :: rest =>
    match digitValue? c with
    | none => none
    | some d =>
      let sum := sum + d * weight
      let t := threshold k bias
      if d < t then some (sum, rest) else readDistance? bias (k + 36) (weight * (36 - t)) sum rest

theorem length_of_readDistance? {bias k weight sum distance : Nat} {digits rest : List Char}
    (h : readDistance? bias k weight sum digits = some (distance, rest)) :
    rest.length < digits.length := by
  induction digits generalizing k weight sum with
  | nil => cases h
  | cons c cs ih =>
    unfold readDistance? at h
    split at h
    · cases h
    · dsimp only at h
      split at h
      · obtain ⟨-, rfl⟩ := Prod.mk.inj (Option.some.inj h)
        exact Nat.lt_succ_self _
      · exact Nat.lt_succ_of_lt (ih h)

/-- Whether a number is that of a character. -/
def isCharacter (n : Nat) : Bool :=
  n < 0xD800 || (0xDFFF < n && n < 0x110000)

/-- Reads distances and puts their characters into the output. A distance is counted from the place
`place` in a walk over the output in which the character is `n`. -/
def readCharacters? (output : List Char) (n place bias : Nat) (isFirst : Bool) (digits : List Char) :
    Option (List Char) :=
  if digits.isEmpty then some output
  else
    match h : readDistance? bias 36 1 0 digits with
    | none => none
    | some (distance, rest) =>
      have := length_of_readDistance? h
      let count := output.length + 1
      let n := n + (place + distance) / count
      let place := (place + distance) % count
      if isCharacter n then
        readCharacters? (output.insertIdx place (Char.ofNat n)) n (place + 1)
          (adapt distance count isFirst) false rest
      else none
  termination_by digits.length

/-- The label that a text in ASCII stands for. -/
def decode? (text : List Char) : Option (List Char) :=
  let digits := (text.reverse.takeWhile (· ≠ '-')).reverse
  let basic := text.take (text.length - digits.length - 1)
  if !basic.all (·.toNat < 128) ∨ (basic.isEmpty ∧ digits.length ≠ text.length) then none
  else readCharacters? basic 128 0 72 true digits

end Herald.Url.Punycode
