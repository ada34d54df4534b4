import CatalogRspec.CommandLine.Arguments
import CatalogRspec.Proofs.Log.Except

namespace CatalogRspec.CommandLine

/-- An option where it is used, with its value if it takes one. -/
inductive Use where
  | setting (s : Setting) (value : String)
  | flag (f : Flag)
deriving DecidableEq

/-- The uses of options in an argument, and the option behind them that waits for its value. -/
structure Opened where
  uses : List Use
  waiting? : Option Setting

def Opened.ofSetting (s : Setting) : Option String → Opened
  | some value => ⟨[.setting s value], none⟩
  | none => ⟨[], some s⟩

def openedLong? (name : String) (value? : Option String) : Option Opened :=
  match Switch.ofLong? name with
  | some (.setting s) => some (.ofSetting s value?)
  | some (.flag f) => if value?.isSome then none else some ⟨[.flag f], none⟩
  | none => none

/-- The uses of options by their short names; the first with a value takes what is left. -/
def openedShort? : List Char → Option Opened
  | [] => some ⟨[], none⟩
  | c :: rest =>
    match Switch.ofShort? c with
    | some (.setting s) => some (.ofSetting s (Reading.joinedValue? rest))
    | some (.flag f) => (openedShort? rest).map fun o => { o with uses := .flag f :: o.uses }
    | none => none

def isWord (a : String) : Bool :=
  match a.toList with
  | '-' :: _ :: _ => false
  | _ => true

def opened? (a : String) : Option Opened :=
  match a.toList with
  | '-' :: '-' :: rest =>
    openedLong? (Reading.splitEquals rest).1 (Reading.splitEquals rest).2
  | '-' :: c :: names => openedShort? (c :: names)
  | _ => none

/-- The uses of options in arguments, the first of which may be the value that an option waits for. -/
def uses? : Option Setting → List String → Option (List Use)
  | none, [] => some []
  | some _, [] => none
  | some s, a :: rest => if isWord a then (uses? none rest).map (.setting s a :: ·) else none
  | none, a :: rest =>
    if a = "--" then if rest.isEmpty then some [] else none
    else (opened? a).bind fun o => (uses? o.waiting? rest).map (o.uses ++ ·)

def take? (l : CommandLine) : Use → Option CommandLine
  | .setting s value => (l.assign s value).toOption
  | .flag f => (l.raise f).toOption

def takeAll? (l : CommandLine) (uses : List Use) : Option CommandLine := uses.foldlM take? l

theorem takeAll?_nil (l : CommandLine) : l.takeAll? [] = some l := rfl

theorem takeAll?_cons (l : CommandLine) (u : Use) (uses : List Use) :
    l.takeAll? (u :: uses) = (l.take? u).bind fun l => l.takeAll? uses := by
  rw [takeAll?, List.foldlM_cons]
  rfl

theorem takeAll?_append (l : CommandLine) (us vs : List Use) :
    l.takeAll? (us ++ vs) = (l.takeAll? us).bind fun l => l.takeAll? vs := by
  rw [takeAll?, List.foldlM_append]
  rfl

theorem takeAll?_singleton (l : CommandLine) (u : Use) : l.takeAll? [u] = l.take? u := by
  rw [takeAll?_cons]
  exact Option.bind_fun_some _

namespace Pending

/-- The use that is complete but has not yet been taken in. -/
def uses : Pending → List Use
  | .complete s value => [.setting s value]
  | _ => []

def waiting? : Pending → Option Setting
  | .awaiting s => some s
  | _ => none

def ofWaiting : Option Setting → Pending
  | some s => .awaiting s
  | none => .nothing

@[simp] theorem waiting?_ofWaiting (s : Option Setting) : (ofWaiting s).waiting? = s := by
  cases s <;> rfl

@[simp] theorem uses_ofWaiting (s : Option Setting) : (ofWaiting s).uses = [] := by
  cases s <;> rfl

end Pending

namespace Reading

def ofOpened? (line : CommandLine) (o : Opened) : Option Reading :=
  (line.takeAll? o.uses).map (⟨·, .ofWaiting o.waiting?⟩)

theorem toOption_settle (r : Reading) :
    r.settle.toOption = if r.pending.waiting?.isSome then none else r.line.takeAll? r.pending.uses := by
  obtain ⟨line, pending⟩ := r
  cases pending with
  | nothing => rfl
  | awaiting s => rfl
  | complete s value => exact (takeAll?_singleton line (.setting s value)).symm

theorem toOption_setting (r : Reading) (s : Setting) (value? : Option String) :
    (r.setting s value?).toOption =
      r.settle.toOption.bind fun line => ofOpened? line (.ofSetting s value?) := by
  cases value? with
  | none =>
    unfold setting
    simp only [Except.toOption_bind, Except.toOption_mapError]
    rfl
  | some value =>
    unfold setting
    simp only [Except.toOption_bind, Except.toOption_mapError]
    refine congrArg _ (funext fun line => ?_)
    rw [ofOpened?, Opened.ofSetting, takeAll?_singleton]
    show (line.assign s value).toOption.bind _ = (line.assign s value).toOption.map _
    cases line.assign s value <;> rfl

theorem toOption_flag (r : Reading) (f : Flag) :
    (r.flag f).toOption =
      r.settle.toOption.bind fun line => ofOpened? line ⟨[.flag f], none⟩ := by
  unfold flag
  simp only [Except.toOption_bind, Except.toOption_mapError]
  refine congrArg _ (funext fun line => ?_)
  rw [ofOpened?, takeAll?_singleton]
  show (line.raise f).toOption.bind _ = (line.raise f).toOption.map _
  cases line.raise f <;> rfl

theorem toOption_long (r : Reading) (name : String) (value? : Option String) :
    (r.long name value?).toOption =
      r.settle.toOption.bind fun line => (openedLong? name value?).bind (ofOpened? line) := by
  unfold long openedLong?
  cases Switch.ofLong? name with
  | none => simp
  | some switch =>
    cases switch with
    | setting s => exact toOption_setting r s value?
    | flag f =>
      cases value? with
      | none => exact toOption_flag r f
      | some value => simp

theorem toOption_short_nothing (line : CommandLine) (names : List Char) :
    (short ⟨line, .nothing⟩ names).toOption = (openedShort? names).bind (ofOpened? line) := by
  induction names generalizing line with
  | nil => rfl
  | cons c rest ih =>
    unfold short openedShort?
    cases Switch.ofShort? c with
    | none => rfl
    | some switch =>
      cases switch with
      | setting s => exact toOption_setting ⟨line, .nothing⟩ s (joinedValue? rest)
      | flag f =>
        have hfirst : (flag ⟨line, .nothing⟩ f).toOption =
            (line.take? (.flag f)).map (⟨·, .nothing⟩) := by
          rw [toOption_flag]
          show ofOpened? line ⟨[.flag f], none⟩ = _
          rw [ofOpened?, takeAll?_singleton]
          rfl
        show (flag ⟨line, .nothing⟩ f >>= fun r => r.short rest).toOption = _
        rw [Except.toOption_bind, hfirst, Option.bind_map, Option.bind_map]
        simp only [Function.comp_def, ih, ofOpened?, takeAll?_cons, Option.map_bind]
        cases openedShort? rest <;> cases line.take? (.flag f) <;> rfl

theorem toOption_short_cons (r : Reading) (c : Char) (names : List Char) :
    (r.short (c :: names)).toOption =
      r.settle.toOption.bind fun line => (openedShort? (c :: names)).bind (ofOpened? line) := by
  have hsettled : (r.short (c :: names)).toOption =
      r.settle.toOption.bind fun line => (short ⟨line, .nothing⟩ (c :: names)).toOption := by
    unfold short
    cases Switch.ofShort? c with
    | none => simp
    | some switch =>
      cases switch with
      | setting s => simp only [toOption_setting]; rfl
      | flag f =>
        simp only [toOption_flag, Except.toOption_bind, Option.bind_assoc]
        rfl
  rw [hsettled]
  simp only [toOption_short_nothing]

/-- Whatever is pending takes effect before the uses of the next argument. -/
theorem toOption_argument (r : Reading) {a : String} (ha : isWord a = false) :
    (r.argument a).toOption =
      r.settle.toOption.bind fun line => (opened? a).bind (ofOpened? line) := by
  unfold isWord at ha
  unfold argument opened?
  split at ha
  · next c names hnames =>
    rw [hnames]
    split
    · next rest heq =>
      obtain ⟨rfl, rfl⟩ := List.cons.inj (List.cons.inj heq).2
      exact toOption_long r _ _
    · next heq => cases heq
    · next names' hlong _ heq =>
      obtain rfl : c :: names = names' := (List.cons.inj heq).2
      split
      · next rest heq => exact absurd (List.cons.inj heq).2 (hlong rest)
      · next heq =>
        obtain ⟨rfl, rfl⟩ := List.cons.inj (List.cons.inj heq).2
        exact toOption_short_cons r _ _
      · next hshort => exact absurd rfl (hshort c names)
    · next hshort => exact absurd rfl (hshort (c :: names))
  · cases ha

theorem argument_of_isWord (r : Reading) {a : String} (ha : isWord a = true) :
    r.argument a = r.word a := by
  unfold isWord at ha
  unfold argument
  split at ha
  · cases ha
  · next hword =>
    split
    · next rest heq => exact absurd heq (hword '-' rest)
    · rfl
    · next names _ hne heq =>
      cases names with
      | nil => exact absurd rfl hne
      | cons c names => exact absurd heq (hword c names)
    · rfl

theorem opened?_of_isWord {a : String} (ha : isWord a = true) : opened? a = none := by
  unfold isWord at ha
  unfold opened?
  split at ha
  · cases ha
  · next hword =>
    split
    · next rest heq => exact absurd heq (hword '-' rest)
    · next c names _ heq => exact absurd heq (hword c names)
    · rfl

theorem toOption_arguments_dashes (r : Reading) (rest : List String) :
    (r.arguments ("--" :: rest)).toOption = if rest.isEmpty then r.settle.toOption else none := by
  cases rest with
  | nil => exact Except.toOption_mapError _ _
  | cons b rest => rfl

/-- A reading goes on just as its uses of options can be taken in. -/
theorem toOption_arguments (r : Reading) (as : List String) :
    (r.arguments as).toOption =
      (uses? r.pending.waiting? as).bind fun us => r.line.takeAll? (r.pending.uses ++ us) := by
  -- What is pending passes from one argument to the next, so the reading is general.
  induction as generalizing r with
  | nil =>
    have hend : (r.arguments []).toOption = r.settle.toOption := Except.toOption_mapError _ _
    rw [hend, toOption_settle]
    obtain ⟨line, pending⟩ := r
    cases pending <;> rfl
  | cons a rest ih =>
    by_cases hdashes : a = "--"
    · subst hdashes
      rw [toOption_arguments_dashes, toOption_settle]
      cases hwaiting : r.pending.waiting? with
      | some s => simp [uses?, isWord]
      | none => cases rest <;> simp [uses?]
    have hstep : r.arguments (a :: rest) = r.argument a >>= fun r => r.arguments rest := by
      rw [arguments]
      exact hdashes
    rw [hstep, Except.toOption_bind]
    cases ha : isWord a with
    | true =>
      rw [argument_of_isWord r ha]
      obtain ⟨line, pending⟩ := r
      cases pending with
      | awaiting s =>
        show (arguments ⟨line, .complete s a⟩ rest).toOption = (uses? (some s) (a :: rest)).bind _
        rw [ih, uses?, if_pos ha, Option.bind_map]
        rfl
      | _ =>
        show none = (uses? none (a :: rest)).bind _
        rw [uses?, if_neg hdashes, opened?_of_isWord ha]
        rfl
    | false =>
      rw [toOption_argument r ha, toOption_settle]
      cases hwaiting : r.pending.waiting? with
      | some s => simp [uses?, ha]
      | none =>
        rw [uses?, if_neg hdashes]
        cases opened? a with
        | none => simp
        | some o =>
          -- The uses in the argument stand between what was pending and what is yet to come.
          simp only [Option.isSome_none, Bool.false_eq_true, if_false, Option.bind_some, ofOpened?,
            Option.bind_assoc, Option.bind_map, Function.comp_def, ih, Pending.waiting?_ofWaiting,
            Pending.uses_ofWaiting, takeAll?_append, takeAll?_nil]
          cases uses? o.waiting? rest with
          | none => simp
          | some us => simp

end Reading

/-- A command line is accepted just when its uses of options can all be taken in. -/
theorem parse_eq_ok_iff (as : List String) (l : CommandLine) :
    parse as = .ok l ↔ ∃ us, uses? none as = some us ∧ takeAll? {} us = some l := by
  rw [← Except.toOption_eq_some_iff, parse, Reading.toOption_arguments, Option.bind_eq_some_iff]
  rfl

end CatalogRspec.CommandLine
