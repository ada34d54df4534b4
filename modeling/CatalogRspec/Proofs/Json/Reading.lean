import CatalogRspec.Json.Reader
import CatalogRspec.Proofs.Literal.KeyWidth
import CatalogRspec.Proofs.Log.Except

namespace CatalogRspec.Json

namespace Reader

theorem run_append {s s' : State} {offset offset' : Nat} {cs : List Char}
    (h : run s offset cs = .ok (s', offset')) (ds : List Char) :
    run s offset (cs ++ ds) = run s' offset' ds := by
  induction cs generalizing s offset with
  | nil =>
    obtain ⟨rfl, rfl⟩ := Prod.mk.inj (Except.ok.inj h)
    rfl
  | cons c cs ih =>
    obtain ⟨t, hstep, hrest⟩ := Except.bind_eq_ok_iff.mp h
    rw [List.cons_append, run, hstep]
    exact ih hrest

theorem run_letters (role : Role) (chars : List Char) (stack : List Frame) (offset n : Nat) :
    run ⟨.string role chars .none, stack⟩ offset (List.replicate n 'a') =
      .ok (⟨.string role (List.replicate n 'a' ++ chars) .none, stack⟩, offset + n) := by
  induction n generalizing chars offset with
  | zero => rfl
  | succ n ih =>
    have hstep : step ⟨.string role chars .none, stack⟩ offset 'a' =
        .ok ⟨.string role ('a' :: chars) .none, stack⟩ := rfl
    have hchars : List.replicate n 'a' ++ 'a' :: chars = List.replicate (n + 1) 'a' ++ chars := by
      rw [List.replicate_succ', List.append_assoc]
      rfl
    have hoffset : offset + Char.utf8Size 'a' + n = offset + (n + 1) := Nat.add_right_comm offset 1 n
    rw [List.replicate_succ, run, hstep]
    refine (ih ('a' :: chars) _).trans ?_
    rw [hchars, hoffset]
    rfl

end Reader

/-- A catalog whose class behind `main` has one parameter. -/
def namingCatalog (name : String) : Value :=
  .object [("resources", .array [
    .object [("type", .string "Class"), ("title", .string "main")],
    .object [("type", .string "Class"), ("title", .string "Foo"),
      ("parameters", .object [(name, .bool true)])]])]

def namingFront : String :=
  "\x7b\"resources\":[\x7b\"type\":\"Class\",\"title\":\"main\"\x7d," ++
    "\x7b\"type\":\"Class\",\"title\":\"Foo\",\"parameters\":\x7b\""

def namingText (name : String) : String := namingFront ++ (name ++ "\":true\x7d\x7d]\x7d")

open Reader Literal

def namingStack : List Frame :=
  [.object [] "", .object [("type", .string "Class"), ("title", .string "Foo")] "parameters",
    .array [.object [("type", .string "Class"), ("title", .string "main")]],
    .object [] "resources"]

set_option maxRecDepth 4000 in
theorem run_namingFront :
    run start 0 namingFront.toList = .ok (⟨.string .key [] .none, namingStack⟩, 91) := rfl

theorem run_namingBack (chars : List Char) (offset : Nat) :
    run ⟨.string .key chars .none, namingStack⟩ offset "\":true\x7d\x7d]\x7d".toList =
      .ok (⟨.done (namingCatalog (String.ofList chars.reverse)), []⟩, offset + 10) := rfl

/-- The name is read letter by letter, and what stands around it in one go. -/
theorem parse_namingText (n : Nat) :
    Value.parse (namingText (letters n)) = .ok (namingCatalog (letters n)) := by
  have hletters : (letters n).toList = List.replicate n 'a' := String.toList_ofList
  have hrun : run start 0 (namingText (letters n)).toList =
      .ok (⟨.done (namingCatalog (letters n)), []⟩, 91 + n + 10) := by
    -- What stands before the name, the name, and what stands behind it.
    rw [namingText, String.toList_append, run_append run_namingFront, String.toList_append, hletters,
      run_append (run_letters _ _ _ _ n), List.append_nil, run_namingBack, List.reverse_replicate,
      letters]
  unfold Value.parse
  extract_lets chars
  have hchars : run start 0 chars = _ := hrun
  rw [hchars]
  rfl

end CatalogRspec.Json
