import JavaStubs.Config.Shape
import JavaStubs.Proofs.Number.Whole

/-! When a value has a shape, told without the departures by which a shape is checked: it does if no departure is
found. -/
namespace JavaStubs.Config

/-- A value has a shape. -/
inductive Fits : Shape → Value → Prop where
  | text {s : String} (filled : s ≠ "") : Fits .text (.text s)
  | count {v : Value} {n : Int} (whole : integer? v = some n) (nonneg : 0 ≤ n) : Fits .count v
  | word {words : List String} {s : String} (known : s ∈ words) : Fits (.word words) (.text s)
  | list {nonempty : Bool} {item : Shape} {items : List Value} (filled : nonempty = true → items ≠ [])
      (fits : ∀ x ∈ items, Fits item x) : Fits (.list nonempty item) (.array items)
  | table {required : List String} {fields : List (String × Shape)} {given : List (String × Value)}
      (known : ∀ f ∈ given, f.1 ∈ fields.map (·.1)) (there : ∀ k ∈ required, (given.lookup k).isSome)
      (fits : ∀ f ∈ fields, ∀ x, given.lookup f.1 = some x → Fits f.2 x) :
      Fits (.table required fields) (.table given)

theorem here_ne_nil (departure : Departure) (mismatch : Bool) : here departure mismatch ≠ [] := nofun

theorem under_eq_nil_iff {step : PathStep} {vs : List Violation} : under step vs = [] ↔ vs = [] :=
  List.map_eq_nil_iff

theorem isNegative_iff {v : Value} {n : Int} (h : integer? v = some n) : isNegative v = true ↔ n < 0 := by
  cases v with
  | int k =>
    cases h
    exact decide_eq_true_iff
  | real x => exact (Number.Real64.toInt?_eq_some_iff.1 h).isNegative_iff
  | _ => cases h

variable {v : Value} {item : Shape} {required words : List String} {nonempty : Bool} {fields : List (String × Shape)}

theorem text_violations : violations .text v = [] ↔ Fits .text v := by
  cases v with
  | text s =>
    by_cases hs : s = ""
    · simp only [violations, if_pos hs, here_ne_nil, false_iff]
      rintro ⟨hfilled⟩
      exact hfilled hs
    · simp only [violations, if_neg hs, true_iff]
      exact .text hs
  | _ =>
    simp only [violations, here_ne_nil, false_iff]
    rintro ⟨⟩

theorem count_violations : violations .count v = [] ↔ Fits .count v := by
  rw [violations, List.append_eq_nil_iff]
  cases hint : integer? v with
  | none =>
    refine ⟨fun h => absurd h.1 (here_ne_nil _ _), ?_⟩
    rintro (⟨⟩ | ⟨hwhole, -⟩)
    cases hint.symm.trans hwhole
  | some n =>
    have hneg := isNegative_iff hint
    by_cases hn : n < 0
    · simp only [hneg.2 hn, if_true, here_ne_nil, and_false, false_iff]
      rintro (⟨⟩ | ⟨hwhole, hnonneg⟩)
      cases hint.symm.trans hwhole
      omega
    · simp only [Option.isSome_some, if_true, if_neg (mt hneg.1 hn), true_and]
      exact ⟨fun _ => .count hint (Int.not_lt.1 hn), fun _ => trivial⟩

theorem word_violations : violations (.word words) v = [] ↔ Fits (.word words) v := by
  cases v with
  | text s =>
    by_cases hs : s ∈ words
    · simp only [violations, List.contains_iff_mem.2 hs, if_true, true_iff]
      exact .word hs
    · simp only [violations, List.contains_iff_mem, if_neg hs, here_ne_nil, false_iff]
      rintro ⟨⟩
      contradiction
  | _ =>
    simp only [violations, here_ne_nil, false_iff]
    rintro ⟨⟩

theorem list_violations (ih : ∀ x, violations item x = [] ↔ Fits item x) :
    violations (.list nonempty item) v = [] ↔ Fits (.list nonempty item) v := by
  cases v with
  | array items =>
    have hitems : (∀ p ∈ items.zipIdx, Fits item p.1) ↔ ∀ x ∈ items, Fits item x := by
      have hfst : (∀ p ∈ items.zipIdx, Fits item p.1) ↔ ∀ x ∈ items.zipIdx.map Prod.fst, Fits item x :=
        List.forall_mem_map.symm
      rwa [List.zipIdx_map_fst] at hfst
    have hfilled : (if nonempty && items.isEmpty then here (.empty (.array items)) false else []) = [] ↔
        (nonempty = true → items ≠ []) := by
      cases nonempty <;> cases items <;> simp [here_ne_nil]
    rw [violations, List.append_eq_nil_iff, hfilled, List.flatten_eq_nil_iff, List.forall_mem_map]
    simp only [under_eq_nil_iff, ih, hitems]
    constructor
    · rintro ⟨hne, hfits⟩
      exact .list hne hfits
    · rintro ⟨⟩
      exact ⟨‹_›, ‹_›⟩
  | _ =>
    simp only [violations, here_ne_nil, false_iff]
    rintro ⟨⟩

theorem extra_eq_nil_iff {known : List String} {given : List (String × Value)} :
    (given.map (·.1)).filter (fun k => known.all (· ≠ k)) = [] ↔ ∀ f ∈ given, f.1 ∈ known := by
  rw [List.filter_eq_nil_iff, List.forall_mem_map]
  simp

theorem table_violations
    (ih : ∀ given, fieldViolations fields given = [] ↔ ∀ f ∈ fields, ∀ x, given.lookup f.1 = some x → Fits f.2 x) :
    violations (.table required fields) v = [] ↔ Fits (.table required fields) v := by
  cases v with
  | table given =>
    have hnone : ∀ extra : List String, (if extra.isEmpty then []
        else here (.unexpectedKeys (extra.mergeSort fun a b => decide (a ≤ b))) false) = [] ↔ extra = [] := by
      intro extra
      cases extra <;> simp [here_ne_nil]
    have hthere : (required.filter fun k => (given.lookup k).isNone).map
        (fun k => (⟨[], .missingKey k, false⟩ : Violation)) = [] ↔ ∀ k ∈ required, (given.lookup k).isSome := by
      simp [List.filter_eq_nil_iff]
    rw [violations, List.append_eq_nil_iff, List.append_eq_nil_iff, hnone, extra_eq_nil_iff, hthere, ih]
    constructor
    · rintro ⟨⟨hknown, hthere⟩, hfits⟩
      exact .table hknown hthere hfits
    · rintro ⟨⟩
      exact ⟨⟨‹_›, ‹_›⟩, ‹_›⟩
  | _ =>
    simp only [violations, here_ne_nil, false_iff]
    rintro ⟨⟩

mutual

theorem violations_eq_nil_iff : ∀ (shape : Shape) (v : Value), violations shape v = [] ↔ Fits shape v
  | .text, _ => text_violations
  | .count, _ => count_violations
  | .word _, _ => word_violations
  | .list _ item, _ => list_violations (violations_eq_nil_iff item)
  | .table _ fields, _ => table_violations (fieldViolations_eq_nil_iff fields)

theorem fieldViolations_eq_nil_iff : ∀ (fields : List (String × Shape)) (given : List (String × Value)),
    fieldViolations fields given = [] ↔ ∀ f ∈ fields, ∀ x, given.lookup f.1 = some x → Fits f.2 x
  | [], given => by simp [fieldViolations]
  | (k, shape) :: rest, given => by
    rw [fieldViolations, List.append_eq_nil_iff, fieldViolations_eq_nil_iff rest given, List.forall_mem_cons]
    refine and_congr_left' ?_
    cases hk : given.lookup k with
    | none => simp
    | some x => simp [under_eq_nil_iff, violations_eq_nil_iff shape x]

end

end JavaStubs.Config
