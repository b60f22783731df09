/-!
# The discrete Fourier transform

The transform of `n` complex numbers is a sum of `n` terms for each of its `n` values.  When
`n` is a product, the sum over all inputs splits into sums over the inputs with one remainder,
each of them a shorter transform.  So the transform is computed along a list of factors of
`n`, one factor at a time, and costs as many terms for each value as the factors add up to.

A large prime factor is not summed up like that.  Half the square of a difference of two
places is half of either square less their product, so the sum is a convolution with a chirp,
the numbers whose angles grow with the square of the place; and a convolution is a product
between transforms of a length that is a power of two.

Numbers that lie beyond the end of a row count as zero.
-/

namespace LiveSpeech.Audio

set_option autoImplicit false

/-- The ratio of a circle's circumference to its diameter. -/
def circleRatio : Float := 3.141592653589793

/-- The number at a place of a row. -/
def element (row : FloatArray) (index : Nat) : Float :=
  if inside : index < row.size then row.get index inside else 0.0

/-- A row of numbers given by their places. -/
def tabulate (count : Nat) (number : Nat → Float) : FloatArray :=
  (List.range count).foldl (fun row index => row.push (number index)) (.emptyWithCapacity count)

/-- A row of complex numbers. -/
structure Spectrum where
  re : FloatArray
  im : FloatArray

/-- The row with the given real parts. -/
def Spectrum.ofReal (row : FloatArray) : Spectrum := ⟨row, .empty⟩

/-- A row of complex numbers given by their places. -/
def Spectrum.tabulate (count : Nat) (number : Nat → Float × Float) : Spectrum :=
  (List.range count).foldl (fun (row : Spectrum) index =>
    let (re, im) := number index
    ⟨row.re.push re, row.im.push im⟩) ⟨.empty, .empty⟩

/-- The complex number at a place of a row. -/
def Spectrum.at (row : Spectrum) (index : Nat) : Float × Float :=
  (element row.re index, element row.im index)

def product (left right : Float × Float) : Float × Float :=
  (left.1 * right.1 - left.2 * right.2, left.1 * right.2 + left.2 * right.1)

/-- The complex number of size `1` at an angle. -/
def onCircle (angle : Float) : Float × Float := (angle.cos, angle.sin)

/-! ## Along the factors -/

/-- The roots of unity of an order; `direction` is `-1` for the transform and `1` for its
inverse. -/
def rootsOfUnity (direction : Float) (order : Nat) : Spectrum :=
  .tabulate order fun index =>
    onCircle (direction * 2.0 * circleRatio * index.toFloat / order.toFloat)

/-- Factors of a number, found by trying divisors in ascending order; `trials` bounds how many
divisors are tried. -/
def radices : (trials candidate number : Nat) → List Nat
  | 0, _, number => if number ≤ 1 then [] else [number]
  | trials + 1, candidate, number =>
    if number ≤ 1 then []
    else if number % candidate = 0 then candidate :: radices trials candidate (number / candidate)
    else if number < candidate * candidate then [number]
    else radices trials (candidate + 1) number

/-- The sum over the parts, from the one with the given remainder on, of their numbers at
`place`, each turned by its root of unity.  `turn` is the angle of one remainder, and angles
count in parts of the `order`. -/
def gather (roots : Spectrum) (order : Nat) (parts : Array Spectrum) (place turn : Nat) :
    (left remainder : Nat) → (re im : Float) → Float × Float
  | 0, _, re, im => (re, im)
  | left + 1, remainder, re, im =>
    let part := parts.getD remainder ⟨.empty, .empty⟩
    let partRe := element part.re place
    let partIm := element part.im place
    let angle := remainder * turn % order
    let rootRe := element roots.re angle
    let rootIm := element roots.im angle
    gather roots order parts place turn left (remainder + 1)
      (re + partRe * rootRe - partIm * rootIm) (im + partRe * rootIm + partIm * rootRe)

/-- The transform of the numbers of a row at the places `first`, `first + stride`, …, as many
as the product of the factors and of `leafSize`, the length of the transforms that `leaf`
computes.  The roots of unity are those of the whole row. -/
def transformAlong (roots : Spectrum) (order : Nat) (leaf : (stride first : Nat) → Spectrum)
    (leafSize : Nat) : List Nat → (stride first : Nat) → Spectrum
  | [], stride, first => leaf stride first
  | radix :: others, stride, first =>
    let size := others.foldl (· * ·) leafSize
    let parts := ((List.range radix).map fun remainder =>
      transformAlong roots order leaf leafSize others (stride * radix)
        (first + remainder * stride)).toArray
    .tabulate (radix * size) fun index =>
      gather roots order parts (index % size) (index * stride) radix 0 0.0 0.0

/-- The transform of the one number of a row at a place. -/
def single (row : Spectrum) (_stride first : Nat) : Spectrum := .tabulate 1 fun _ => row.at first

/-! ## By a chirp -/

/-- What turns a transform into a convolution. -/
structure Chirp where
  length : Nat
  power : Nat
  phases : Spectrum
  forward : Spectrum
  backward : Spectrum
  kernel : Spectrum

/-- The transform of a row along a power of two. -/
def transformPower (roots : Spectrum) (power : Nat) (row : Spectrum) : Spectrum :=
  transformAlong roots (Nat.pow 2 power) (single row) 1 (List.replicate power 2) 1 0

/-- The chirp for a length and a direction. -/
def Chirp.ofLength (direction : Float) (length : Nat) : Chirp :=
  let phases : Spectrum := .tabulate length fun index =>
    onCircle (direction * circleRatio * (index * index % (2 * length)).toFloat / length.toFloat)
  let power := (2 * length).log2 + 1
  let forward := rootsOfUnity (-1.0) (Nat.pow 2 power)
  let conjugate (index : Nat) : Float × Float := ((phases.at index).1, -(phases.at index).2)
  let around : Spectrum := .tabulate (Nat.pow 2 power) fun index =>
    conjugate (min index (Nat.pow 2 power - index))
  { length := length
    power := power
    phases := phases
    forward := forward
    backward := rootsOfUnity 1.0 (Nat.pow 2 power)
    kernel := transformPower forward power around }

/-- The transform of the numbers of a row at the places `first`, `first + stride`, …. -/
def Chirp.apply (chirp : Chirp) (row : Spectrum) (stride first : Nat) : Spectrum :=
  let turned : Spectrum := .tabulate chirp.length fun index =>
    product (row.at (first + stride * index)) (chirp.phases.at index)
  let turnedTransform := transformPower chirp.forward chirp.power turned
  let products : Spectrum := .tabulate (Nat.pow 2 chirp.power) fun index =>
    product (turnedTransform.at index) (chirp.kernel.at index)
  let convolved := transformPower chirp.backward chirp.power products
  let size := (Nat.pow 2 chirp.power).toFloat
  .tabulate chirp.length fun index =>
    let (re, im) := product (convolved.at index) (chirp.phases.at index)
    (re / size, im / size)

/-! ## Transforms -/

/-- A transform of rows of one length, with what it needs at hand. -/
structure Transform where
  order : Nat
  factors : List Nat
  chirp : Option Chirp
  roots : Spectrum

/-- The longest sums that are computed as such. -/
def longestSum : Nat := 64

/-- The transform of rows of the given length, or its inverse up to the length as a factor. -/
def Transform.ofOrder (direction : Float) (order : Nat) : Transform :=
  let factors := radices order 2 order
  let roots := rootsOfUnity direction order
  match factors.getLast? with
  | some largest =>
    if longestSum < largest then
      ⟨order, factors.dropLast, some (.ofLength direction largest), roots⟩
    else ⟨order, factors, none, roots⟩
  | none => ⟨order, [], none, roots⟩

def Transform.apply (transform : Transform) (row : Spectrum) : Spectrum :=
  match transform.chirp with
  | some chirp => transformAlong transform.roots transform.order (chirp.apply row) chirp.length
      transform.factors 1 0
  | none => transformAlong transform.roots transform.order (single row) 1 transform.factors 1 0

end LiveSpeech.Audio
