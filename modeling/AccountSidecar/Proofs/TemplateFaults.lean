import AccountSidecar.Proofs.Tables
import AccountSidecar.Template.Rendering

/-!
# Templates that no value can upset

Most operations in a template refuse some operands, and that is no fault of the template itself.
This module singles out the templates in which no operation can refuse anything: they look values
up, compare them for equality, choose between them and put them into the output (`isUndemanding`).
By induction over the tree of such a template every value in it is ordinary, which means that it can
be written, and so rendering gives a text or ends in a fault of the template (`render_proceeds`).
-/

namespace AccountSidecar.Template

/-- Whether a result is a good value or a fault of the template itself. -/
def Proceeds {α : Type} (good : α → Prop) : Except Fault α → Prop
  | .ok a => good a
  | .error fault => fault.isOfTemplate = true

section Proceeds

instance {α : Type} (good : α → Prop) [DecidablePred good] (result : Except Fault α) :
    Decidable (Proceeds good result) :=
  match result with
  | .ok a => inferInstanceAs (Decidable (good a))
  | .error fault => inferInstanceAs (Decidable (fault.isOfTemplate = true))

variable {α β : Type} {good : α → Prop} {good' : β → Prop} {result : Except Fault α}

/-- A function of a good value proceeds where it gives good values. -/
theorem Proceeds.map (first : Proceeds good result) {f : α → β} (next : ∀ a, good a → good' (f a)) :
    Proceeds good' (result.map f) := by
  cases result with
  | error fault => exact first
  | ok a => exact next a first

/-- What a good value leads to proceeds where it does so for each of them. -/
theorem Proceeds.bind (first : Proceeds good result) {f : α → Except Fault β}
    (next : ∀ a, good a → Proceeds good' (f a)) : Proceeds good' (result.bind f) := by
  cases result with
  | error fault => exact first
  | ok a => exact next a first

end Proceeds

namespace Datum

/-- Whether some value has something under the name that is outside the fragment. -/
def isForeignName (key : String) : Bool :=
  isInnerName key || foreignMarkupMethods.contains key ||
    (integerFields ++ floatFields ++ listFields ++ tableFields ++ foreignLoopFields ++
      undefinedFields ++ itselfFields).contains key

mutual

/-- Whether a value is made of texts, truth values, fractions, integers that can be written and
methods, in lists and tuples. -/
def isOrdinary : Datum → Bool
  | .integer n => Number.isWritable n
  | .list items | .tuple items => areOrdinary items
  | .backwards _ | .table _ | .cursor _ _ => false
  | _ => true

/-- Whether all items are ordinary. -/
def areOrdinary : List Datum → Bool
  | [] => true
  | d :: rest => isOrdinary d && areOrdinary rest

end

/-- Items are ordinary where each of them is. -/
theorem areOrdinary_iff {items : List Datum} :
    areOrdinary items = true ↔ ∀ d ∈ items, d.isOrdinary = true := by
  induction items with
  | nil => simp [areOrdinary]
  | cons d rest ih => simp [areOrdinary, ih]

mutual

/-- An ordinary value can be written. -/
theorem isWritable_of_ordinary : ∀ d : Datum, d.isOrdinary = true → d.isWritable = true
  | .integer n => by rw [isOrdinary, isWritable]; exact id
  | .list items | .tuple items => by
    rw [isOrdinary, isWritable]
    exact areWritable_of_ordinary items
  | .table _ => by rw [isOrdinary]; exact nofun
  | .undefined | .nothing | .bool _ | .float _ | .text _ | .escaped _ | .backwards _ | .cursor _ _
  | .method _ _ | .itself => fun _ => rfl

/-- Ordinary items can be written. -/
theorem areWritable_of_ordinary :
    ∀ items : List Datum, areOrdinary items = true → areWritable items = true
  | [], _ => rfl
  | d :: rest, ordinary => by
    rw [areOrdinary, Bool.and_eq_true] at ordinary
    rw [areWritable, isWritable_of_ordinary d ordinary.1, areWritable_of_ordinary rest ordinary.2]
    rfl

end

variable {d index x : Datum}

/-- An ordinary value prints. -/
theorem exists_print (ordinary : d.isOrdinary = true) : ∃ s, d.print = .ok s := by
  have written : d.display = .ok d.nested := if_pos (isWritable_of_ordinary d ordinary)
  unfold print
  split
  · exact ⟨_, rfl⟩
  · exact ⟨_, rfl⟩
  · exact ⟨_, rfl⟩
  · exact ⟨_, written⟩

/-- Ordinary values print one after another. -/
theorem exists_joined {values : List Datum} (ordinary : areOrdinary values = true) :
    ∃ s, joined values = .ok s := by
  induction values with
  | nil => exact ⟨"", rfl⟩
  | cons d rest ih =>
    rw [areOrdinary, Bool.and_eq_true] at ordinary
    obtain ⟨s, printed⟩ := exists_print ordinary.1
    obtain ⟨more, others⟩ := ih ordinary.2
    exact ⟨s ++ more, by rw [joined, printed, others]; rfl⟩

/-- What stands at an index is one of the items. -/
theorem mem_of_itemAt? {α : Type} {items : List α} {place : Int} {a : α}
    (found : itemAt? items place = some a) : a ∈ items := by
  unfold itemAt? at found
  exact List.mem_of_getElem? (Option.ite_none_left_eq_some.mp found).2

/-- Every item of an ordinary value is ordinary. -/
theorem isOrdinary_of_indexed? (ordinary : d.isOrdinary = true)
    (found : d.indexed? index = some x) :
    x.isOrdinary = true := by
  unfold indexed? at found
  split at found
  · obtain ⟨n, -, found⟩ := Option.bind_eq_some_iff.mp found
    obtain ⟨c, -, rfl⟩ := Option.map_eq_some_iff.mp found
    rfl
  · obtain ⟨n, -, found⟩ := Option.bind_eq_some_iff.mp found
    obtain ⟨c, -, rfl⟩ := Option.map_eq_some_iff.mp found
    rfl
  · obtain ⟨n, -, found⟩ := Option.bind_eq_some_iff.mp found
    rw [isOrdinary, areOrdinary_iff] at ordinary
    exact ordinary x (mem_of_itemAt? found)
  · obtain ⟨n, -, found⟩ := Option.bind_eq_some_iff.mp found
    rw [isOrdinary, areOrdinary_iff] at ordinary
    exact ordinary x (mem_of_itemAt? found)
  · cases ordinary
  · cases found

/-- A name that is foreign to no value is not foreign to any. -/
theorem isForeignField_of_native {key : String} (native : isForeignName key = false) (d : Datum) :
    d.isForeignField key = false := by
  simp only [isForeignName, foreignMarkupMethods, listFields, Bool.or_eq_false_iff,
    List.contains_eq_any_beq, List.any_append] at native
  cases d <;>
    simp only [isForeignField, foreignMarkupMethods, listFields, List.contains_eq_any_beq,
      List.any_append, native, Bool.or_false]

/-- Every field of an ordinary value's own is ordinary: it is a method. -/
theorem isOrdinary_of_ownField? {key : String} (ordinary : d.isOrdinary = true)
    (found : d.ownField? key = some x) : x.isOrdinary = true := by
  unfold ownField? at found
  split at found
  · obtain ⟨-, same⟩ := Option.ite_none_right_eq_some.mp found
    obtain rfl := Option.some.inj same
    rfl
  · obtain ⟨-, same⟩ := Option.ite_none_right_eq_some.mp found
    obtain rfl := Option.some.inj same
    rfl
  · cases ordinary
  · cases found

/-- What is undefined where it is not there is ordinary if it is so where it is there. -/
theorem isOrdinary_getD {found : Option Datum} (each : ∀ x, found = some x → x.isOrdinary = true) :
    (found.getD .undefined).isOrdinary = true := by
  cases found with
  | none => rfl
  | some x => exact each x rfl

/-- A field of an ordinary value is ordinary, if the value is defined and the name is foreign to
none. -/
theorem field_proceeds (ordinary : d.isOrdinary = true) {key : String}
    (native : isForeignName key = false) :
    Proceeds (fun x => x.isOrdinary = true) (d.field key) := by
  unfold field
  split
  · rw [isForeignField_of_native native]
    rfl
  · split
    · rename_i found
      exact isOrdinary_of_ownField? ordinary found
    · rw [isForeignField_of_native native]
      exact isOrdinary_getD fun x found => isOrdinary_of_indexed? ordinary found

/-- An item of an ordinary value is ordinary, if the value is defined and the index is no name that
is foreign to some. -/
theorem item_proceeds (ordinary : d.isOrdinary = true)
    (native : ∀ key, index.text? = some key → isForeignName key = false) :
    Proceeds (fun x => x.isOrdinary = true) (d.item index) := by
  unfold item
  split
  · rfl
  · split
    · rename_i found
      exact isOrdinary_of_indexed? ordinary found
    · split
      · rfl
      · rename_i key named
        rw [isForeignField_of_native (native key named)]
        exact isOrdinary_getD fun x found => isOrdinary_of_ownField? ordinary found

/-- Changing the characters of a text keeps a value ordinary. -/
theorem isOrdinary_mapText (change : String → String) (ordinary : d.isOrdinary = true) :
    (d.mapText change).isOrdinary = true := by
  unfold mapText
  split
  · rfl
  · rfl
  · exact ordinary

/-- The text of an ordinary value is ordinary. -/
theorem toText_proceeds (ordinary : d.isOrdinary = true) :
    Proceeds (fun x => x.isOrdinary = true) d.toText := by
  unfold toText
  split
  · rfl
  · rfl
  · obtain ⟨s, printed⟩ := exists_print ordinary
    rw [printed]
    rfl

/-- The text of an ordinary value in markup is there. -/
theorem exists_escape (ordinary : d.isOrdinary = true) : ∃ s, d.escape = .ok s := by
  unfold escape
  split
  · exact ⟨_, rfl⟩
  · obtain ⟨s, printed⟩ := exists_print ordinary
    rw [printed]
    exact ⟨_, rfl⟩

end Datum

/-- Stripping white space from an ordinary value gives an ordinary one. -/
theorem Datum.stripped_proceeds {d : Datum} (ordinary : d.isOrdinary = true) :
    Proceeds (fun x => x.isOrdinary = true) (d.stripped .nothing) :=
  Datum.isOrdinary_mapText Text.strip ordinary

/-- The most arguments with which a filter takes every value; some filters refuse values with any
arguments. -/
def Filter.mostArguments? : Filter → Option Nat
  | .upper | .lower | .capitalize | .trim | .escape => some 0
  | .fallback => some 2
  | _ => none

/-- Whether a filter takes every value with so many arguments. -/
def Filter.takesEverything (filter : Filter) (count : Nat) : Bool :=
  filter.mostArguments?.any (count ≤ ·)

/-- A filter that takes every value gives ordinary values for ordinary ones. -/
theorem Filter.apply_proceeds {filter : Filter} {d : Datum} {args : List Datum}
    (takes : filter.takesEverything args.length = true) (ordinary : d.isOrdinary = true)
    (given : Datum.areOrdinary args = true) :
    Proceeds (fun x => x.isOrdinary = true)
      ((bindNamed filter.parameters args []).bind (filter.apply d)) := by
  have bare (few : (args.length ≤ 0 : Bool) = true) : args = [] :=
    List.length_eq_zero_iff.mp (Nat.le_zero.mp (of_decide_eq_true few))
  have changed (change : String → String) : Proceeds (fun x => x.isOrdinary = true)
      (d.toText.map (Datum.mapText change)) :=
    (Datum.toText_proceeds ordinary).map fun x => Datum.isOrdinary_mapText change
  cases filter with
  | upper =>
    obtain rfl := bare takes
    exact changed Text.upper
  | lower =>
    obtain rfl := bare takes
    exact changed Text.lower
  | capitalize =>
    obtain rfl := bare takes
    exact changed Text.capitalize
  | trim =>
    obtain rfl := bare takes
    exact (Datum.toText_proceeds ordinary).bind fun x => Datum.stripped_proceeds
  | escape =>
    obtain rfl := bare takes
    obtain ⟨s, escaped⟩ := Datum.exists_escape ordinary
    change Proceeds _ (d.escape.map Datum.escaped)
    rw [escaped]
    rfl
  | fallback =>
    have chosen (value whenFalse : Datum) (own : value.isOrdinary = true) :
        Proceeds (fun x => x.isOrdinary = true) (Filter.fallback.apply d [value, whenFalse]) := by
      unfold Filter.apply
      dsimp only
      split
      · exact own
      · by_cases empty : (whenFalse.isTrue && !d.isTrue) = true
        · rw [if_pos empty]
          exact own
        · rw [if_neg empty]
          exact ordinary
    rw [Datum.areOrdinary_iff] at given
    match args, takes with
    | [], _ => exact chosen _ _ rfl
    | [value], _ => exact chosen value _ (given value List.mem_cons_self)
    | [value, whenFalse], _ => exact chosen value whenFalse (given value List.mem_cons_self)
  | _ => cases takes

/-- A filter, looked up by its name, that takes every value gives ordinary values for ordinary ones;
a name without a filter is a fault of the template. -/
theorem applyFilter_proceeds {key : String} {d : Datum} {args : List Datum}
    (takes : (Filter.named? key).all (·.takesEverything args.length) = true)
    (native : foreignFilters.contains key = false) (ordinary : d.isOrdinary = true)
    (given : Datum.areOrdinary args = true) :
    Proceeds (fun x => x.isOrdinary = true) (applyFilter key d args []) := by
  unfold applyFilter
  cases named : Filter.named? key with
  | none =>
    dsimp only
    rw [native]
    rfl
  | some filter =>
    rw [named] at takes
    exact Filter.apply_proceeds takes ordinary given

/-- A test without arguments answers about every value; a name without a test is a fault of the
template. -/
theorem applyTest_proceeds {key : String} (native : foreignTests.contains key = false) (d : Datum) :
    Proceeds (fun _ => True) (applyTest key d [] []) := by
  unfold applyTest
  cases Test.named? key with
  | none =>
    dsimp only
    rw [native]
    rfl
  | some test => trivial

/-- Whether every value of a name is ordinary. -/
def Scope.IsOrdinary (scope : Scope) : Prop :=
  ∀ key d, Keyed.find? key scope = some d → d.isOrdinary = true

namespace Scope.IsOrdinary

variable {scope : Scope} (ordinary : scope.IsOrdinary)
include ordinary

/-- The value of every name is ordinary, also of one without a value. -/
theorem value (key : String) : (scope.value key).isOrdinary = true := by
  unfold Scope.value
  split
  · rename_i found
    exact ordinary key _ found
  · split <;> rfl

/-- Giving a name an ordinary value keeps the values ordinary. -/
theorem put (key : String) {d : Datum} (own : d.isOrdinary = true) :
    Scope.IsOrdinary (Keyed.put key d scope) := by
  intro other x found
  by_cases same : key = other
  · rw [← same, Keyed.find?_put_self] at found
    rwa [← Option.some.inj found]
  · rw [Keyed.find?_put_of_ne (Ne.symm same)] at found
    exact ordinary other x found

end Scope.IsOrdinary

/-- Whether an expression is an integer, or a text that is foreign to no value. -/
def Expression.isPlainIndex : Expression → Bool
  | .integer _ => true
  | .text s => !Datum.isForeignName s
  | _ => false

mutual

/-- Whether nothing in an expression can refuse a value or leads out of the fragment: no arithmetic,
no order, no slice, no call, no table, no filter that wants a value of some kind and no name of
something foreign. -/
def Expression.isUndemanding : Expression → Bool
  | .integer n => Number.isWritable n
  | .name s => !globalNames.contains s
  | .list items | .tuple items | .joined items => expressionsUndemanding items
  | .negation e => e.isUndemanding
  | .field e key => !Datum.isForeignName key && e.isUndemanding
  | .item e index => index.isPlainIndex && e.isUndemanding
  | .both left right | .either left right => left.isUndemanding && right.isUndemanding
  | .compare first rest => first.isUndemanding && comparisonsUndemanding rest
  | .choice test yes no => test.isUndemanding && yes.isUndemanding && no.isUndemanding
  | .filter key e args names =>
    (Filter.named? key).all (·.takesEverything args.length) && !foreignFilters.contains key &&
      names.isEmpty && e.isUndemanding && expressionsUndemanding args
  | .check key e args names =>
    !foreignTests.contains key && args.isEmpty && names.isEmpty && e.isUndemanding
  | .table _ | .sign _ _ | .arithmetic _ _ _ | .slice _ _ _ _ | .call _ _ _ => false
  | _ => true

/-- Whether nothing in expressions can refuse a value. -/
def expressionsUndemanding : List Expression → Bool
  | [] => true
  | e :: rest => e.isUndemanding && expressionsUndemanding rest

/-- Whether operands are compared for equality alone, and nothing in them can refuse a value. -/
def comparisonsUndemanding : List (Comparison × Expression) → Bool
  | [] => true
  | (op, e) :: rest =>
    (op == .equal || op == .unequal) && e.isUndemanding && comparisonsUndemanding rest

end

/-- A plain index has a value, which is foreign to none. -/
theorem exists_evaluate_plainIndex (scope : Scope) {index : Expression}
    (plain : index.isPlainIndex = true) : ∃ i, evaluate scope index = .ok i ∧
      ∀ key, i.text? = some key → Datum.isForeignName key = false := by
  cases index with
  | integer n => exact ⟨_, by rw [evaluate], fun _ same => by cases same⟩
  | text s =>
    refine ⟨_, by rw [evaluate], fun key same => ?_⟩
    obtain rfl := Option.some.inj same
    simpa [Expression.isPlainIndex] using plain
  | _ => cases plain

section Evaluation

variable {scope : Scope}

mutual

/-- An undemanding expression has an ordinary value, or the template is at fault. -/
theorem evaluate_proceeds (ordinary : scope.IsOrdinary) : ∀ e : Expression,
    e.isUndemanding = true → Proceeds (fun d => d.isOrdinary = true) (evaluate scope e)
  | .missing | .nothing | .bool _ | .float _ | .text _ => fun _ => rfl
  | .integer n => by
    rw [Expression.isUndemanding, evaluate, Proceeds, Datum.isOrdinary]
    exact id
  | .name s => fun undemanding => by
    rw [Expression.isUndemanding, Bool.not_eq_true'] at undemanding
    rw [evaluate, Scope.isGlobal, undemanding, Bool.and_false]
    exact ordinary.value s
  | .list items | .tuple items => fun undemanding => by
    rw [Expression.isUndemanding] at undemanding
    rw [evaluate]
    refine (evaluateAll_proceeds ordinary items undemanding).map fun values each => ?_
    rw [Datum.isOrdinary]
    exact each.1
  | .joined items => fun undemanding => by
    rw [Expression.isUndemanding] at undemanding
    have each := evaluateAll_proceeds ordinary items undemanding
    rw [evaluate]
    generalize evaluateAll scope items = result at each ⊢
    cases result with
    | error fault => exact each
    | ok values =>
      obtain ⟨s, written⟩ := Datum.exists_joined each.1
      dsimp only
      rw [written]
      rfl
  | .negation e => fun undemanding => by
    rw [Expression.isUndemanding] at undemanding
    have own := evaluate_proceeds ordinary e undemanding
    rw [evaluate]
    generalize evaluate scope e = result at own ⊢
    cases result with
    | error fault => exact own
    | ok d => rfl
  | .field e key => fun undemanding => by
    rw [Expression.isUndemanding, Bool.and_eq_true, Bool.not_eq_true'] at undemanding
    have own := evaluate_proceeds ordinary e undemanding.2
    rw [evaluate]
    generalize evaluate scope e = result at own ⊢
    cases result with
    | error fault => exact own
    | ok d => exact Datum.field_proceeds own undemanding.1
  | .both left right => fun undemanding => by
    rw [Expression.isUndemanding, Bool.and_eq_true] at undemanding
    have first := evaluate_proceeds ordinary left undemanding.1
    have second := evaluate_proceeds ordinary right undemanding.2
    rw [evaluate]
    generalize evaluate scope left = result at first ⊢
    cases result with
    | error fault => exact first
    | ok d =>
      dsimp only
      split
      · exact second
      · exact first
  | .either left right => fun undemanding => by
    rw [Expression.isUndemanding, Bool.and_eq_true] at undemanding
    have first := evaluate_proceeds ordinary left undemanding.1
    have second := evaluate_proceeds ordinary right undemanding.2
    rw [evaluate]
    generalize evaluate scope left = result at first ⊢
    cases result with
    | error fault => exact first
    | ok d =>
      dsimp only
      split
      · exact first
      · exact second
  | .item e index => fun undemanding => by
    rw [Expression.isUndemanding, Bool.and_eq_true] at undemanding
    have own := evaluate_proceeds ordinary e undemanding.2
    obtain ⟨i, place, native⟩ := exists_evaluate_plainIndex scope undemanding.1
    rw [evaluate, place]
    generalize evaluate scope e = result at own ⊢
    cases result with
    | error fault => exact own
    | ok d => exact Datum.item_proceeds own native
  | .compare first rest => fun undemanding => by
    rw [Expression.isUndemanding, Bool.and_eq_true] at undemanding
    have own := evaluate_proceeds ordinary first undemanding.1
    rw [evaluate]
    generalize evaluate scope first = result at own ⊢
    cases result with
    | error fault => exact own
    | ok d => exact (evaluateComparisons_proceeds ordinary rest d undemanding.2).map fun _ _ => rfl
  | .choice test yes no => fun undemanding => by
    rw [Expression.isUndemanding, Bool.and_eq_true, Bool.and_eq_true] at undemanding
    have asked := evaluate_proceeds ordinary test undemanding.1.1
    have first := evaluate_proceeds ordinary yes undemanding.1.2
    have second := evaluate_proceeds ordinary no undemanding.2
    rw [evaluate]
    generalize evaluate scope test = result at asked ⊢
    cases result with
    | error fault => exact asked
    | ok d =>
      dsimp only
      split
      · exact first
      · exact second
  | .filter key e args names => fun undemanding => by
    rw [Expression.isUndemanding, Bool.and_eq_true, Bool.and_eq_true, Bool.and_eq_true,
      Bool.and_eq_true, Bool.not_eq_true', List.isEmpty_iff] at undemanding
    obtain ⟨⟨⟨⟨takes, native⟩, rfl⟩, first⟩, second⟩ := undemanding
    have own := evaluate_proceeds ordinary e first
    have given := evaluateAll_proceeds ordinary args second
    rw [evaluate]
    generalize evaluate scope e = result at own ⊢
    generalize evaluateAll scope args = results at given ⊢
    cases result with
    | error fault => exact own
    | ok d =>
      cases results with
      | error fault => exact given
      | ok values => exact applyFilter_proceeds (given.2 ▸ takes) native own given.1
  | .check key e args names => fun undemanding => by
    rw [Expression.isUndemanding, Bool.and_eq_true, Bool.and_eq_true, Bool.and_eq_true,
      Bool.not_eq_true', List.isEmpty_iff, List.isEmpty_iff] at undemanding
    obtain ⟨⟨⟨native, rfl⟩, rfl⟩, undemanding⟩ := undemanding
    have own := evaluate_proceeds ordinary e undemanding
    rw [evaluate, evaluateAll]
    generalize evaluate scope e = result at own ⊢
    cases result with
    | error fault => exact own
    | ok d => exact (applyTest_proceeds native d).map fun _ _ => rfl
  | .table _ | .sign _ _ | .arithmetic _ _ _ | .slice _ _ _ _ | .call _ _ _ => by
    rw [Expression.isUndemanding]
    exact nofun

/-- Undemanding expressions have ordinary values, as many as there are expressions, or the template
is at fault. -/
theorem evaluateAll_proceeds (ordinary : scope.IsOrdinary) : ∀ items : List Expression,
    expressionsUndemanding items = true →
      Proceeds (fun values => Datum.areOrdinary values = true ∧ values.length = items.length)
        (evaluateAll scope items)
  | [] => fun _ => ⟨rfl, rfl⟩
  | e :: rest => fun undemanding => by
    rw [expressionsUndemanding, Bool.and_eq_true] at undemanding
    have first := evaluate_proceeds ordinary e undemanding.1
    have others := evaluateAll_proceeds ordinary rest undemanding.2
    rw [evaluateAll]
    cases value : evaluate scope e with
    | error fault => rwa [value] at first
    | ok d =>
      rw [value] at first
      refine others.map fun values each => ?_
      rw [Datum.areOrdinary, List.length_cons, List.length_cons, each.1, each.2]
      exact ⟨Bool.and_eq_true_iff.mpr ⟨first, rfl⟩, rfl⟩

/-- Comparing values with undemanding operands for equality gives an answer, or the template is at
fault. -/
theorem evaluateComparisons_proceeds (ordinary : scope.IsOrdinary) :
    ∀ (rest : List (Comparison × Expression)) (d : Datum), comparisonsUndemanding rest = true →
      Proceeds (fun _ => True) (evaluateComparisons scope d rest)
  | [] => fun _ _ => trivial
  | (op, e) :: rest => fun d undemanding => by
    rw [comparisonsUndemanding, Bool.and_eq_true, Bool.and_eq_true, Bool.or_eq_true, beq_iff_eq,
      beq_iff_eq] at undemanding
    obtain ⟨⟨equality, own⟩, others⟩ := undemanding
    have operand := evaluate_proceeds ordinary e own
    rw [evaluateComparisons]
    generalize evaluate scope e = result at operand ⊢
    cases result with
    | error fault => exact operand
    | ok next =>
      obtain ⟨holds, answered⟩ : ∃ holds, Datum.compares op d next = .ok holds := by
        rcases equality with rfl | rfl <;> exact ⟨_, rfl⟩
      dsimp only
      rw [answered]
      dsimp only
      split
      · exact evaluateComparisons_proceeds ordinary rest next others
      · trivial

end

end Evaluation

mutual

/-- Whether nothing in a statement can refuse a value: a loop may, and so may a target with several
names. -/
def Statement.isUndemanding : Statement → Bool
  | .text _ => true
  | .output e | .assign (.name _) e => e.isUndemanding
  | .branch test body otherwise =>
    test.isUndemanding && statementsUndemanding body && statementsUndemanding otherwise
  | .capture (.name _) e body => e.isUndemanding && statementsUndemanding body
  | _ => false

/-- Whether nothing in statements can refuse a value. -/
def statementsUndemanding : List Statement → Bool
  | [] => true
  | s :: rest => s.isUndemanding && statementsUndemanding rest

end

mutual

/-- An undemanding statement keeps the values of names ordinary, or the template is at fault. -/
theorem renderStatement_proceeds : ∀ (s : Statement) (scope : Scope), scope.IsOrdinary →
    s.isUndemanding = true → Proceeds (fun r => Scope.IsOrdinary r.2) (renderStatement scope s)
  | .text s => fun _ ordinary _ => ordinary
  | .output e => fun scope ordinary undemanding => by
    rw [Statement.isUndemanding] at undemanding
    have shown := evaluate_proceeds ordinary e undemanding
    rw [renderStatement]
    generalize evaluate scope e = result at shown ⊢
    cases result with
    | error fault => exact shown
    | ok d =>
      obtain ⟨s, printed⟩ := Datum.exists_print shown
      dsimp only
      rw [printed]
      exact ordinary
  | .assign (.name key) e => fun scope ordinary undemanding => by
    rw [Statement.isUndemanding] at undemanding
    have value := evaluate_proceeds ordinary e undemanding
    rw [renderStatement]
    generalize evaluate scope e = result at value ⊢
    cases result with
    | error fault => exact value
    | ok d =>
      dsimp only
      rw [assign]
      exact ordinary.put key value
  | .branch test body otherwise => fun scope ordinary undemanding => by
    rw [Statement.isUndemanding, Bool.and_eq_true, Bool.and_eq_true] at undemanding
    have asked := evaluate_proceeds ordinary test undemanding.1.1
    have first := renderAll_proceeds body scope ordinary undemanding.1.2
    have second := renderAll_proceeds otherwise scope ordinary undemanding.2
    rw [renderStatement]
    generalize evaluate scope test = result at asked ⊢
    cases result with
    | error fault => exact asked
    | ok d =>
      dsimp only
      split
      · exact first
      · exact second
  | .capture (.name key) e body => fun scope ordinary undemanding => by
    rw [Statement.isUndemanding, Bool.and_eq_true] at undemanding
    have captured := renderAll_proceeds body scope ordinary undemanding.2
    rw [renderStatement]
    generalize renderAll scope body = result at captured ⊢
    cases result with
    | error fault => exact captured
    | ok r =>
      obtain ⟨output, inner⟩ := r
      have within : Scope.IsOrdinary (inner.put capturedName (.text output)) :=
        Scope.IsOrdinary.put captured capturedName rfl
      have value := evaluate_proceeds within e undemanding.1
      dsimp only
      generalize evaluate _ e = result at value ⊢
      cases result with
      | error fault => exact value
      | ok d =>
        dsimp only
        rw [assign]
        exact ordinary.put key value
  | .assign (.tuple _) _ | .capture (.tuple _) _ _ | .loop _ _ _ _ _ => fun _ _ refused => by
    cases refused

/-- Undemanding statements keep the values of names ordinary, or the template is at fault. -/
theorem renderAll_proceeds : ∀ (statements : List Statement) (scope : Scope), scope.IsOrdinary →
    statementsUndemanding statements = true →
    Proceeds (fun r => Scope.IsOrdinary r.2) (renderAll scope statements)
  | [] => fun _ ordinary _ => ordinary
  | s :: rest => fun scope ordinary undemanding => by
    rw [statementsUndemanding, Bool.and_eq_true] at undemanding
    have first := renderStatement_proceeds s scope ordinary undemanding.1
    rw [renderAll]
    generalize renderStatement scope s = result at first ⊢
    cases result with
    | error fault => exact first
    | ok r =>
      obtain ⟨output, scope'⟩ := r
      have second := renderAll_proceeds rest scope' first undemanding.2
      dsimp only
      generalize renderAll scope' rest = result at second ⊢
      cases result with
      | error fault => exact second
      | ok more => exact second

end

/-- Whether a template is read as statements in which nothing can refuse a value, or has a fault of
its own. -/
def IsUndemanding (source : String) : Prop :=
  Proceeds (fun statements => statementsUndemanding statements = true)
    (prepare (undotted source.toList))

instance (source : String) : Decidable (IsUndemanding source) :=
  inferInstanceAs (Decidable (Proceeds _ _))

/-- Rendering an undemanding template gives a text, or the template is at fault, unless the name of
the template itself is given a value. -/
theorem render_proceeds {source : String} {data : Keyed String} (undemanding : IsUndemanding source)
    (free : Keyed.find? itselfName data = none) :
    Proceeds (fun _ => True) (render source data) := by
  have ordinary : Scope.IsOrdinary (Keyed.mapValues Datum.text data) := by
    intro key d found
    rw [Keyed.find?_mapValues] at found
    obtain ⟨s, -, rfl⟩ := Option.map_eq_some_iff.mp found
    rfl
  unfold IsUndemanding at undemanding
  unfold render outputOf
  generalize prepare (undotted source.toList) = result at undemanding ⊢
  cases result with
  | error fault => exact undemanding
  | ok statements =>
    dsimp only
    rw [free, if_neg (by decide)]
    exact (renderAll_proceeds statements _ ordinary undemanding).map fun _ _ => trivial

/-- A template that shows names, with and without a dot, falls back to a text and asks whether two
texts are equal. -/
example : IsUndemanding
    ("\x7b\x7b.To\x7d\x7d \x7b\x7b From | default('-') \x7d\x7d" ++
      "\x7b% if Role == 'admin' %\x7d!\x7b% endif %\x7d") := by
  decide +kernel

end AccountSidecar.Template
