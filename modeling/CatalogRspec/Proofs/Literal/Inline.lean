import CatalogRspec.Proofs.Json.Members
import CatalogRspec.Proofs.Json.NumberValue
import CatalogRspec.Proofs.Literal.Skeleton

namespace CatalogRspec

namespace Json

/-- No object repeats a key, and every double is canonical. -/
inductive Value.IsWellFormed : Value → Prop where
  | null : IsWellFormed .null
  | bool (b : Bool) : IsWellFormed (.bool b)
  | number {n : Number} (h : n.IsCanonical) : IsWellFormed (.number n)
  | string (s : String) : IsWellFormed (.string s)
  | array {items : List Value} (h : ∀ v ∈ items, IsWellFormed v) : IsWellFormed (.array items)
  | object {ms : Members} (hkeys : ms.HasDistinctKeys) (h : ∀ m ∈ ms, IsWellFormed m.2) :
    IsWellFormed (.object ms)

end Json

namespace Literal

open Json

/-- What stands behind a literal, within a container, at the end of a line or of a text. -/
def FollowsLiteral (rest : List Char) : Prop :=
  ∀ c ∈ rest.head?, c ∈ [',', ']', '}', ' ', '\n']

theorem FollowsLiteral.endsWord {rest : List Char} (h : FollowsLiteral rest) : EndsWord rest := by
  have hmarks : ∀ c ∈ [',', ']', '}', ' ', '\n'], isWordChar c = false := by decide
  exact fun c hc => hmarks c (h c hc)

theorem map_inj_of_forall {α β : Type} {f : α → β} {xs ys : List α}
    (h : ∀ x ∈ xs, ∀ y ∈ ys, f x = f y → x = y) (heq : xs.map f = ys.map f) : xs = ys := by
  induction xs generalizing ys with
  | nil => exact (List.map_eq_nil_iff.mp heq.symm).symm
  | cons x xs ih =>
    cases ys with
    | nil => cases heq
    | cons y ys =>
      obtain ⟨hhead, htail⟩ := List.cons.inj heq
      rw [h x List.mem_cons_self y List.mem_cons_self hhead, ih
        (fun a ha b hb => h a (List.mem_cons_of_mem x ha) b (List.mem_cons_of_mem y hb)) htail]

theorem Datum.ofValue_inj {v w : Value} (hv : v.IsWellFormed) (hw : w.IsWellFormed)
    (h : ofValue .string v = ofValue .string w) : v = w := by
  -- Every kind of value has a kind of datum to itself, so `w` is of the kind of `v`.
  induction v using Value.induction generalizing w with
  | null => cases w <;> first | rfl | cases h
  | bool b =>
    cases w with
    | bool c => exact congrArg Value.bool (Datum.bool.inj h)
    | _ => cases h
  | number m =>
    cases w with
    | number n =>
      cases hv with
      | number hm =>
        cases hw with
        | number hn =>
          exact congrArg Value.number (Number.eq_of_text_eq hm hn (Datum.number.inj h))
    | _ => cases h
  | string s =>
    cases w with
    | string t => exact congrArg Value.string (Datum.string.inj h)
    | _ => cases h
  | array items ih =>
    cases w with
    | array items' =>
      cases hv with
      | array hv =>
        cases hw with
        | array hw =>
          have hitems := Datum.array.inj h
          rw [ofItems_eq, ofItems_eq] at hitems
          exact congrArg Value.array (map_inj_of_forall
            (fun v hmem w hmem' => ih v hmem (hv v hmem) (hw w hmem')) hitems)
    | _ => cases h
  | object ms ih =>
    cases w with
    | object ms' =>
      cases hv with
      | object _ hv =>
        cases hw with
        | object _ hw =>
          have hmembers := Datum.hash.inj h
          rw [ofMembers_eq, ofMembers_eq] at hmembers
          refine congrArg Value.object (map_inj_of_forall (fun m hm n hn heq => ?_) hmembers)
          obtain ⟨hkey, hvalue⟩ := Prod.mk.inj heq
          exact Prod.ext (Key.string.inj hkey) (ih m hm (hv m hm) (hw n hn) hvalue)
    | _ => cases h

/-- A literal on one line ends where it was written to end and stands for its document, whatever
follows. So equal texts come from equal documents with equal texts behind them, and what the strings
of a document are has no part in its structure. -/
theorem readDatum_inspect (v : Value) :
    (∀ rest, FollowsLiteral rest → ∀ fuel, (inspect v).length ≤ fuel →
      readDatum fuel ((inspect v).toList ++ rest) = some (.ofValue .string v, rest)) ∧
    (∀ w rest rest', FollowsLiteral rest → FollowsLiteral rest' →
      (inspect v).toList ++ rest = (inspect w).toList ++ rest' →
        Datum.ofValue .string v = Datum.ofValue .string w ∧ rest = rest' ∧
          (v.IsWellFormed → w.IsWellFormed → v = w)) ∧
    ∀ w, v.erase (fun _ => "") = w.erase (fun _ => "") →
      Alike (inspect v).toList (inspect w).toList := by
  have hread (v : Value) (rest : List Char) (h : FollowsLiteral rest) (fuel : Nat)
      (hfuel : (inspect v).length ≤ fuel) :
      readDatum fuel ((inspect v).toList ++ rest) = some (.ofValue .string v, rest) :=
    (denotes_inspect v).readDatum_eq (String.length_toList ▸ hfuel) h.endsWord
  refine ⟨hread v, fun w rest rest' h h' heq => ?_, fun w h => ?_⟩
  -- Enough fuel for the longer of the two, so that it is one and the same run of the reader.
  · have hv := hread v rest h (max (inspect v).length (inspect w).length) (le_max_left _ _)
    have hw := hread w rest' h' (max (inspect v).length (inspect w).length) (le_max_right _ _)
    rw [heq, hw] at hv
    obtain ⟨hdatum, hrest⟩ := Prod.mk.inj (Option.some.inj hv)
    exact ⟨hdatum.symm, hrest.symm, fun hv hw => Datum.ofValue_inj hv hw hdatum.symm⟩
  · exact (alike_inspect_erase _ v).trans (h ▸ (alike_inspect_erase _ w).symm)

/-- Strings full of marks, within containers that another one closes. -/
theorem readDatum_inspect_of_marks :
    let tenth : Binary64 := ⟨true, 0x1999999999999a, -56⟩
    let v : Value := .object
      [("\"#\x7bb", .array [.string "], \\\"#$x", .null, .number (.double tenth)]),
        ("", .object [])]
    let rest := "], \"c\" => 1\x7d".toList
    FollowsLiteral rest ∧ v.IsWellFormed ∧
      inspect v =
        "\x7b\"\\\"\\#\x7bb\" => [\"], \\\\\\\"\\#$x\", nil, -0.1], \"\" => \x7b\x7d\x7d" ∧
      readDatum (inspect v).length ((inspect v).toList ++ rest) = some (.ofValue .string v, rest) ∧
      ∀ w : Value, w.IsWellFormed →
        (inspect v).toList ++ rest = (inspect w).toList ++ rest → v = w := by
  intro tenth v rest
  have hrest : FollowsLiteral rest := by
    intro c hc
    rw [Option.mem_some_iff.mp hc.symm]
    decide
  have htenth : tenth.IsCanonical := ⟨⟨by decide, by decide, by decide⟩, by decide⟩
  have hitems :
      ∀ w ∈ [Value.string "], \\\"#$x", .null, .number (.double tenth)], w.IsWellFormed := by
    simp only [List.forall_mem_cons]
    exact ⟨.string _, .null, .number htenth, fun _ h => absurd h List.not_mem_nil⟩
  have hv : v.IsWellFormed := by
    refine .object (by decide) ?_
    simp only [List.forall_mem_cons]
    refine ⟨.array hitems, .object (by decide) ?_, ?_⟩
    · exact fun _ h => absurd h List.not_mem_nil
    · exact fun _ h => absurd h List.not_mem_nil
  obtain ⟨hread, hinj, -⟩ := readDatum_inspect v
  exact ⟨hrest, hv, by decide +kernel, hread rest hrest _ le_rfl,
    fun w hw heq => (hinj w rest rest hrest hrest heq).2.2 hv hw⟩

end Literal

end CatalogRspec
