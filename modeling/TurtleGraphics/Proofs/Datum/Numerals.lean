import TurtleGraphics.Datum.Printer
import TurtleGraphics.Datum.Reader
import TurtleGraphics.Proofs.Number.Shortest

/-! # Numbers in JSON

An integer or a finite double that is written is read as the same number, whatever comes after it,
as long as that does not go on with the number. Doubles are written by the shortest decimals that
are rounded to them.
-/

namespace TurtleGraphics

open Float.Model Float.Model.UnpackedFloat Double

namespace Datum

/-- What comes after a number does not go on with it. -/
def EndsNumber (rest : List Char) : Prop :=
  ∀ c, rest.head? = some c → c.isDigit = false ∧ c ≠ '.' ∧ c ≠ 'e' ∧ c ≠ 'E'

variable {digits whole tail fraction after rest sign : List Char} {power? : Option Int}
  {negative : Bool}

/-! ## Parts of a number -/

theorem spanDigits_append (hdigits : ∀ c ∈ digits, c.isDigit = true)
    (hrest : ∀ c, rest.head? = some c → c.isDigit = false) :
    spanDigits (digits ++ rest) = (digits, rest) := by
  have none : rest.takeWhile Char.isDigit = [] ∧ rest.dropWhile Char.isDigit = rest := by
    cases rest with
    | nil => exact ⟨rfl, rfl⟩
    | cons c rest => simp [hrest c rfl]
  rw [spanDigits, List.span_eq_takeWhile_dropWhile, List.takeWhile_append_of_pos hdigits,
    List.dropWhile_append_of_pos hdigits, none.1, none.2, List.append_nil]

theorem readFraction_point (hdigits : ∀ c ∈ digits, c.isDigit = true) (hsome : digits ≠ [])
    (hrest : ∀ c, rest.head? = some c → c.isDigit = false) :
    readFraction ('.' :: (digits ++ rest)) = some (digits, rest) := by
  rw [readFraction, spanDigits_append hdigits hrest]
  cases digits with
  | nil => exact absurd rfl hsome
  | cons => rfl

theorem readFraction_none (hrest : ∀ c, rest.head? = some c → c ≠ '.') :
    readFraction rest = some ([], rest) := by
  unfold readFraction
  split
  · exact absurd rfl (hrest _ rfl)
  · rfl

theorem readExponent_none (hrest : ∀ c, rest.head? = some c → c ≠ 'e' ∧ c ≠ 'E') :
    readExponent rest = some (none, rest) := by
  unfold readExponent
  dsimp only
  split
  · exact absurd rfl (hrest _ rfl).1
  · exact absurd rfl (hrest _ rfl).2
  · rfl

theorem padLeft_digits (width n : Nat) :
    (∀ c ∈ Text.padLeft '0' width (Nat.toDigits 10 n), c.isDigit = true) ∧
      naturalOf (Text.padLeft '0' width (Nat.toDigits 10 n)) = n ∧
      Text.padLeft '0' width (Nat.toDigits 10 n) ≠ [] := by
  unfold Text.padLeft
  refine ⟨?_, ?_, by simp [Nat.toDigits_ne_nil]⟩
  · rw [List.forall_mem_append]
    constructor
    · intro c hc
      rw [List.eq_of_mem_replicate hc]
      rfl
    · exact fun c hc => Nat.isDigit_of_mem_toDigits (by decide) (by decide) hc
  · rw [naturalOf_append, naturalOf_replicate, naturalOf_toDigits, Nat.zero_mul, Nat.zero_add]

theorem readExponent_power (power : Int) (width : Nat)
    (hrest : ∀ c, rest.head? = some c → c.isDigit = false) :
    readExponent ('e' :: (if power < 0 then '-' else '+') ::
      (Text.padLeft '0' width (Nat.toDigits 10 power.natAbs) ++ rest)) =
        some (some power, rest) := by
  obtain ⟨hdigits, hnumber, hsome⟩ := padLeft_digits width power.natAbs
  generalize Text.padLeft '0' width (Nat.toDigits 10 power.natAbs) = digits at *
  obtain ⟨first, more, rfl⟩ := List.exists_cons_of_ne_nil hsome
  unfold readExponent
  by_cases down : power < 0
  · simp only [if_pos down, spanDigits_append hdigits hrest, hnumber, if_true]
    congr 3
    omega
  · simp only [if_neg down, spanDigits_append hdigits hrest, hnumber, Bool.false_eq_true, if_false]
    congr 3
    omega

theorem readNumber_parts (hsign : sign = if negative then ['-'] else [])
    (hdigits : ∀ c ∈ whole, c.isDigit = true)
    (hsome : whole ≠ []) (htail : ∀ c, tail.head? = some c → c.isDigit = false)
    (hfraction : readFraction tail = some (fraction, after))
    (hpower : readExponent after = some (power?, rest)) :
    readNumber (sign ++ (whole ++ tail)) =
      some (if fraction = [] ∧ power? = none then
          .int (if negative then -(naturalOf whole : Int) else naturalOf whole)
        else .float (floatOf negative whole fraction (power?.getD 0)), rest) := by
  subst hsign
  obtain ⟨first, more, rfl⟩ := List.exists_cons_of_ne_nil hsome
  have digit := hdigits first List.mem_cons_self
  have unsigned : first ≠ '-' := by
    rintro rfl
    cases digit
  have span := spanDigits_append hdigits htail
  rw [List.cons_append] at span ⊢
  unfold readNumber
  cases negative with
  | false =>
      rw [if_neg Bool.false_ne_true, List.nil_append]
      split
      rename_i hsign
      split at hsign
      · rename_i hfirst
        cases hfirst
        exact absurd rfl unsigned
      · cases hsign
        simp only [span, hfraction, hpower, Bool.false_eq_true, if_false, List.isEmpty_cons,
          Option.bind_some, Option.bind_eq_bind]
        cases fraction <;> cases power? <;> rfl
  | true =>
      rw [if_pos rfl, List.singleton_append]
      simp only [span, hfraction, hpower, Bool.false_eq_true, if_false, List.isEmpty_cons,
        Option.bind_some, Option.bind_eq_bind]
      cases fraction <;> cases power? <;> rfl

theorem readNumber_int (n : Int) (hrest : EndsNumber rest) :
    readNumber ((toString n).toList ++ rest) = some (.int n, rest) := by
  have number (negative : Bool) (m : Nat) :
      readNumber ((if negative then ['-'] else []) ++ (Nat.toDigits 10 m ++ rest)) =
        some (.int (if negative then -(m : Int) else m), rest) := by
    rw [readNumber_parts rfl (fun c hc => Nat.isDigit_of_mem_toDigits (by decide) (by decide) hc)
      Nat.toDigits_ne_nil
      (fun c hc => (hrest c hc).1) (readFraction_none fun c hc => (hrest c hc).2.1)
      (readExponent_none fun c hc => (hrest c hc).2.2), if_pos ⟨rfl, rfl⟩, naturalOf_toDigits]
  cases n with
  | ofNat m =>
      rw [show (toString (Int.ofNat m)).toList = Nat.toDigits 10 m from Nat.toList_repr]
      exact number false m
  | negSucc m =>
      rw [show toString (Int.negSucc m) = "-" ++ toString (m + 1) from rfl, String.toList_append,
        show (toString (m + 1)).toList = Nat.toDigits 10 (m + 1) from Nat.toList_repr,
          List.append_assoc]
      exact number true (m + 1)

/-! ## Decimals

In each layout a decimal is read as the double that it is rounded to. -/

section

variable {x : Float} {m : Nat} {e : Int} {hm : 0 < m} {d : Decimal} {k : Nat}

theorem readNumber_float (hsign : sign = if negative then ['-'] else [])
    (hx : x.toModel.unpack = .finite .positive m e hm)
    (hdigits : ∀ c ∈ whole ++ fraction, c.isDigit = true) (hsome : whole ≠ [])
    (htail : ∀ c, tail.head? = some c → c.isDigit = false)
    (hfraction : readFraction tail = some (fraction, after))
    (hpower : readExponent after = some (power?, rest)) (hreal : ¬ (fraction = [] ∧ power? = none))
    (hscale : (power?.getD 0 - fraction.length).natAbs ≤ 2048)
    (hrounds : RoundsTo m e (naturalOf (whole ++ fraction) *
      10 ^ (power?.getD 0 - fraction.length))) :
    readNumber (sign ++ (whole ++ tail)) = some (.float (if negative then -x else x), rest) := by
  rw [readNumber_parts hsign (fun c hc => hdigits c (List.mem_append_left _ hc)) hsome htail
    hfraction hpower, if_neg hreal, floatOf, ofDigits_of_roundsTo hx hdigits hscale hrounds]

theorem isDigit_replicate (n : Nat) : ∀ c ∈ List.replicate n '0', c.isDigit = true := by
  intro c hc
  rw [List.eq_of_mem_replicate hc]
  rfl

theorem readNumber_pointed (hsign : sign = if negative then ['-'] else [])
    (hx : x.toModel.unpack = .finite .positive m e hm)
    (hdigits : ∀ c ∈ whole ++ fraction, c.isDigit = true)
    (hwhole : whole ≠ []) (hfraction : fraction ≠ []) (hrest : EndsNumber rest)
    (hlength : fraction.length ≤ 2048)
    (hrounds : RoundsTo m e (naturalOf (whole ++ fraction) * 10 ^ (-(fraction.length : Int)))) :
    readNumber (sign ++ (whole ++ ('.' :: (fraction ++ rest)))) =
      some (.float (if negative then -x else x), rest) := by
  refine readNumber_float hsign hx hdigits hwhole ?_
    (readFraction_point (fun c hc => hdigits c (List.mem_append_right _ hc)) hfraction fun c hc =>
      (hrest c hc).1)
    (readExponent_none fun c hc => (hrest c hc).2.2) (by simp [hfraction]) ?_ ?_
  · rintro c ⟨⟩
    rfl
  · rw [Option.getD_none]
    omega
  · rwa [Option.getD_none, Int.zero_sub]

theorem readNumber_behind (hsign : sign = if negative then ['-'] else [])
    (hx : x.toModel.unpack = .finite .positive m e hm) (hd : d.Restores m e) (hpoint : d.point = -k)
    (hrest : EndsNumber rest) :
    readNumber (sign ++ ("0.".toList ++ List.replicate k '0' ++ d.digits ++ rest)) =
      some (.float (if negative then -x else x), rest) := by
  obtain ⟨hdigits, hsome, hrounds, hlength, hleast, -⟩ := hd
  rw [show "0.".toList ++ List.replicate k '0' ++ d.digits ++ rest =
    ['0'] ++ ('.' :: (List.replicate k '0' ++ d.digits ++ rest)) by simp]
  refine readNumber_pointed hsign hx ?_ (by simp) (by simp [hsome]) hrest ?_ ?_
  · exact List.forall_mem_append.mpr
      ⟨by simp, List.forall_mem_append.mpr ⟨isDigit_replicate k, hdigits⟩⟩
  · rw [List.length_append, List.length_replicate]
    omega
  · have zeros : ['0'] ++ (List.replicate k '0' ++ d.digits) = List.replicate (k + 1) '0' ++
        d.digits := rfl
    rw [zeros, naturalOf_append, naturalOf_replicate, Nat.zero_mul, Nat.zero_add]
    convert hrounds using 1
    rw [Decimal.value, hpoint, List.length_append, List.length_replicate]
    congr 2
    push_cast
    omega

theorem readNumber_before (hsign : sign = if negative then ['-'] else [])
    (hx : x.toModel.unpack = .finite .positive m e hm) (hd : d.Restores m e)
    (hpoint : d.point = d.digits.length + k) (hrest : EndsNumber rest) :
    readNumber (sign ++ (d.digits ++ List.replicate k '0' ++ ".0".toList ++ rest)) =
      some (.float (if negative then -x else x), rest) := by
  obtain ⟨hdigits, hsome, hrounds, -⟩ := hd
  rw [show d.digits ++ List.replicate k '0' ++ ".0".toList ++ rest =
    d.digits ++ List.replicate k '0' ++ ('.' :: (['0'] ++ rest)) by simp]
  refine readNumber_pointed hsign hx ?_ (by simp [hsome]) (by simp) hrest (by simp) ?_
  · exact List.forall_mem_append.mpr
      ⟨List.forall_mem_append.mpr ⟨hdigits, isDigit_replicate k⟩, by simp⟩
  · convert hrounds using 1
    rw [Decimal.value, hpoint, add_sub_cancel_left, naturalOf_append, naturalOf_append,
      naturalOf_replicate, List.length_replicate, zpow_natCast]
    simp [naturalOf]

theorem readNumber_among (hsign : sign = if negative then ['-'] else [])
    (hx : x.toModel.unpack = .finite .positive m e hm) (hd : d.Restores m e) (hpoint : d.point = k)
    (hpos : 0 < k) (hless : k < d.digits.length) (hrest : EndsNumber rest) :
    readNumber (sign ++ (d.digits.take k ++ '.' :: d.digits.drop k ++ rest)) =
      some (.float (if negative then -x else x), rest) := by
  obtain ⟨hdigits, hsome, hrounds, hlength, -⟩ := hd
  have length : (d.digits.drop k).length = d.digits.length - k := List.length_drop
  rw [List.append_assoc, List.cons_append]
  refine readNumber_pointed hsign hx ?_ ?_ ?_ hrest ?_ ?_
  · rwa [List.take_append_drop]
  · simp [hsome, hpos.ne']
  · simpa using hless
  · omega
  · rw [List.take_append_drop]
    convert hrounds using 1
    rw [Decimal.value, hpoint, length]
    congr 2
    omega

theorem readNumber_scaled (hsign : sign = if negative then ['-'] else [])
    (hx : x.toModel.unpack = .finite .positive m e hm) (hd : d.Restores m e) {first : Char}
    {more : List Char} (hfirst : d.digits = first :: more) (width : Nat) (hrest : EndsNumber rest) :
    readNumber (sign ++ ([first] ++ ((if more = [] then [] else '.' :: more) ++
        'e' :: (if d.point - 1 < 0 then '-' else '+') ::
          (Text.padLeft '0' width (Nat.toDigits 10 (d.point - 1).natAbs) ++ rest)))) =
      some (.float (if negative then -x else x), rest) := by
  obtain ⟨hdigits, -, hrounds, hlength, hleast, hgreatest⟩ := hd
  have power := readExponent_power (d.point - 1) width fun c hc => (hrest c hc).1
  rw [hfirst] at hdigits hlength
  rw [Decimal.value, hfirst] at hrounds
  have scale : d.point - ((first :: more).length : Nat) = d.point - 1 - more.length := by
    rw [List.length_cons]
    push_cast
    omega
  rw [scale] at hrounds
  rw [List.length_cons] at hlength
  cases more with
  | nil =>
      refine readNumber_float hsign hx hdigits (by simp) ?_ (readFraction_none ?_) power (by simp)
        ?_ hrounds
      · rintro c ⟨⟩
        rfl
      · rintro c ⟨⟩
        decide
      · rw [Option.getD_some]
        omega
  | cons second more =>
      rw [if_neg (List.cons_ne_nil _ _), List.cons_append (a := '.')]
      refine readNumber_float hsign hx hdigits (by simp) ?_ (readFraction_point ?_ (by simp) ?_)
        power (by simp) ?_ hrounds
      · rintro c ⟨⟩
        rfl
      · exact fun c hc => hdigits c (List.mem_cons_of_mem _ hc)
      · rintro c ⟨⟩
        rfl
      · rw [Option.getD_some]
        omega

/-- However a decimal is laid out, it is read as the double that it is rounded to. -/
theorem readNumber_write (layout : DecimalLayout) (hsign : sign = if negative then ['-'] else [])
    (hx : x.toModel.unpack = .finite .positive m e hm) (hd : d.Restores m e)
    (hrest : EndsNumber rest) :
    readNumber (sign ++ (layout.write d ++ rest)) =
      some (.float (if negative then -x else x), rest) := by
  unfold DecimalLayout.write
  dsimp only
  split
  · split
    · exact readNumber_behind hsign hx hd (by omega) hrest
    · split
      · exact readNumber_before hsign hx hd (by omega) hrest
      · exact readNumber_among hsign hx hd (by omega) (by omega) (by omega) hrest
  · obtain ⟨first, more, hfirst⟩ := List.exists_cons_of_ne_nil hd.some
    have scaled := readNumber_scaled hsign hx hd hfirst layout.exponentWidth hrest
    rw [hfirst]
    cases more <;> simpa using scaled

end

/-! ## Doubles -/

theorem unpack_ofDigits_zero (hdigits : ∀ c ∈ digits, c = '0') (scale : Int) :
    (ofDigits digits scale).toModel.unpack = .zero .positive := by
  have none : digits.dropWhile (· = '0') = [] := by simpa using hdigits
  unfold ofDigits
  dsimp only
  rw [none, if_pos (.inl rfl)]
  rfl

section

variable {x : Float} {sign : List Char} (hx : x.isFinite = true)
  (hsign : sign = if isNegative x then ['-'] else []) (hrest : EndsNumber rest)

include hx hsign hrest

theorem readNumber_zero {s : Sign} (hu : x.toModel.unpack = .zero s) :
    readNumber (sign ++ ("0.0".toList ++ rest)) = some (.float x, rest) := by
  have negative := isNegative_iff (canonical_of_isFinite hx)
  rw [hu] at negative
  have zero : (ofDigits ['0', '0'] (-1)).toModel.unpack = .zero .positive :=
    unpack_ofDigits_zero (by simp) _
  rw [show "0.0".toList ++ rest = ['0'] ++ ('.' :: (['0'] ++ rest)) from rfl,
    readNumber_parts hsign (by simp) (by simp) (by simp)
      (readFraction_point (by simp) (by simp) fun c hc => (hrest c hc).1)
      (readExponent_none fun c hc => (hrest c hc).2.2), if_neg (by simp)]
  congr 3
  refine (eq_of_unpack_eq hx ?_).symm
  rw [hu, floatOf]
  cases s with
  | positive =>
      have unsigned : isNegative x = false := by simpa [Double.sign] using negative
      rw [unsigned]
      exact zero.symm
  | negative =>
      rw [negative.mpr rfl, if_pos rfl, unpack_neg]
      exact (congrArg UnpackedFloat.neg zero).symm

theorem readNumber_finite (layout : DecimalLayout) {s : Sign} {m : Nat} {e : Int} {hm : 0 < m}
    (hu : x.toModel.unpack = .finite s m e hm) :
    readNumber (sign ++ (layout.write (Decimal.shortest m e) ++ rest)) = some (.float x, rest) := by
  have canonical := canonical_of_isFinite hx
  have negative := isNegative_iff canonical
  rw [hu] at canonical negative
  have restores :=
    Decimal.restores_shortest (show Canonical (.finite .positive m e hm) from canonical)
  cases s with
  | positive =>
      have unsigned : isNegative x = false := by simpa [Double.sign] using negative
      rw [readNumber_write layout hsign hu restores hrest, unsigned]
      rfl
  | negative =>
      have opposite : (-x).toModel.unpack = .finite .positive m e hm := by
        rw [unpack_neg, hu]
        rfl
      rw [readNumber_write layout hsign opposite restores hrest, negative.mpr rfl, if_pos rfl,
        neg_neg_of_isFinite hx]

end

theorem readNumber_writeFloat (layout : DecimalLayout) {x : Float} (hx : x.isFinite = true)
    (hrest : EndsNumber rest) :
    readNumber ((layout.writeFloat x).toList ++ rest) = some (.float x, rest) := by
  have canonical := canonical_of_isFinite hx
  unfold DecimalLayout.writeFloat
  rw [ofFloat_of_isFinite hx]
  dsimp only
  cases hu : x.toModel.unpack with
  | infinity | notANumber =>
      rw [hu] at canonical
      cases canonical
  | zero s =>
      rw [Double.exact, if_pos rfl, String.toList_ofList, List.append_assoc]
      exact readNumber_zero hx rfl hrest hu
  | finite s m e hm =>
      have some : (Double.exact (.finite s m e hm)).significand ≠ 0 := by
        rw [← Int.natAbs_ne_zero, Double.exact, natAbs_apply]
        exact hm.ne'
      rw [if_neg some, String.toList_ofList, List.append_assoc, Double.exact, natAbs_apply]
      exact readNumber_finite hx rfl hrest layout hu

end Datum

end TurtleGraphics
