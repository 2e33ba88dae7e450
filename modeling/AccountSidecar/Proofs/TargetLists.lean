import AccountSidecar.Proofs.NestedTexts
import AccountSidecar.Webhook.PasswordSync
import Mathlib.Data.List.Forall2

/-!
# Lists of targets

The targets for changed passwords come as one JSON text. Text that lists nothing gives no targets,
and of the items of a list those that are no objects are passed over. An object of which a field
that must be a table is something else is not passed over: it refuses the whole list, and so do an
integer that is too long to be read and a text that nests deeper than the reader goes
(`targets_parsed_iff`). Where the list is taken, each of its objects gives one target.
-/

namespace AccountSidecar.Webhook

variable {limit : Nat} {raw : String} {items : List Value} {record : Keyed Value}

/-- Whether a value is an object. -/
def isObject : Value → Bool
  | .table _ => true
  | _ => false

/-- Whether a text is a JSON list. -/
def Lists (raw : String) (items : List Value) : Prop :=
  Text.isBlankText raw = false ∧ Json.read raw = .ok (.list items)

/-- Whether the reader stops at an integer with too many digits. -/
def HoldsLongInteger (raw : String) : Prop :=
  Text.isBlankText raw = false ∧ Json.read raw = .error .numberTooLong

/-- Whether the text nests deeper than a reader with the limit goes. -/
def NestsTooDeep (limit : Nat) (raw : String) : Prop :=
  Text.isBlankText raw = false ∧ Json.nestsBeyond limit raw = true

/-- Whether a field is a table, or counts as false. -/
def HoldsTable (record : Keyed Value) (key : String) : Prop :=
  ∀ v, Keyed.find? key record = some v → v.isTrue = true → ∃ entries, v = .table entries

/-- Whether the headers and the environment of a record are tables, or count as false. -/
def HoldsTables (record : Keyed Value) : Prop :=
  HoldsTable record "headers" ∧ HoldsTable record "env"

/-- A field has its entries as texts where it is a table or counts as false, and is refused where it
is anything else. -/
theorem textTable_cases (record : Keyed Value) (key : String) :
    (HoldsTable record key ∧ ∃ texts, Target.textTable record key = .ok texts) ∨
      (¬ HoldsTable record key ∧ Target.textTable record key = .error .notATable) := by
  unfold HoldsTable Target.textTable Target.firstTrue?
  rw [List.findSome?_singleton]
  cases found : Keyed.find? key record with
  | none => exact .inl ⟨nofun, [], rfl⟩
  | some v =>
    cases true? : v.isTrue with
    | false =>
      refine .inl ⟨fun v' same counts => ?_, [], by simp [true?]⟩
      obtain rfl := Option.some.inj same
      rw [true?] at counts
      cases counts
    | true =>
      simp only [true?, if_true]
      cases v with
      | table entries =>
        exact .inl ⟨fun v' same _ => ⟨entries, (Option.some.inj same).symm⟩, _, rfl⟩
      | _ =>
        refine .inr ⟨fun held => ?_, rfl⟩
        obtain ⟨entries, other⟩ := held _ rfl true?
        cases other

/-- A record describes a target where its headers and its environment are tables or count as false.
-/
theorem ofRecord_cases (record : Keyed Value) :
    (HoldsTables record ∧ ∃ target, Target.ofRecord record = .ok target) ∨
      (¬ HoldsTables record ∧ Target.ofRecord record = .error .notATable) := by
  unfold HoldsTables Target.ofRecord
  rcases textTable_cases record "headers" with ⟨headers, _, read⟩ | ⟨refused, failed⟩
  · rcases textTable_cases record "env" with ⟨env, _, read'⟩ | ⟨refused, failed⟩
    · rw [read, read']
      exact .inl ⟨⟨headers, env⟩, _, rfl⟩
    · rw [read, failed]
      exact .inr ⟨fun held => refused held.2, rfl⟩
  · rw [failed]
    exact .inr ⟨fun held => refused held.1, rfl⟩

/-- Records of which each holds tables give one target each, in order; otherwise all are refused. -/
theorem describe_cases (records : List (Keyed Value)) :
    (∀ record ∈ records, HoldsTables record) ∧
        (∃ targets, records.mapM Target.ofRecord = .ok targets ∧
          List.Forall₂ (fun record target => Target.ofRecord record = .ok target) records targets) ∨
      (∃ record ∈ records, ¬ HoldsTables record) ∧
        records.mapM Target.ofRecord = .error .notATable := by
  induction records with
  | nil => exact .inl ⟨nofun, [], rfl, .nil⟩
  | cons record rest ih =>
    rw [List.mapM_cons]
    rcases ofRecord_cases record with ⟨held, target, described⟩ | ⟨refused, failed⟩
    · rcases ih with ⟨others, targets, read, each⟩ | ⟨⟨other, inside, refused⟩, failed⟩
      · rw [described, read]
        exact .inl ⟨List.forall_mem_cons.mpr ⟨held, others⟩, _, rfl, .cons described each⟩
      · rw [described, failed]
        exact .inr ⟨⟨other, List.mem_cons_of_mem record inside, refused⟩, rfl⟩
    · rw [failed]
      exact .inr ⟨⟨record, List.mem_cons_self, refused⟩, rfl⟩

/-- The objects of a list are those of its records, in order. -/
theorem filter_isObject (items : List Value) :
    items.filter isObject = (recordsIn items).map .table := by
  induction items with
  | nil => rfl
  | cons v rest ih =>
    cases v with
    | table entries => exact congrArg (Value.table entries :: ·) ih
    | _ => exact ih

/-- The record of an object in a list is among its records. -/
theorem mem_recordsIn : record ∈ recordsIn items ↔ Value.table record ∈ items := by
  unfold recordsIn
  rw [List.mem_filterMap]
  constructor
  · rintro ⟨v, inside, same⟩
    cases v <;> cases same
    exact inside
  · exact fun inside => ⟨_, inside, rfl⟩

/-- A text that lists something gives the targets of its records, or is refused with them. -/
theorem parseTargets_of_lists (lists : Lists raw items) :
    parseTargets (some raw) =
      ((recordsIn items).mapM Target.ofRecord).mapError TargetsFault.target := by
  simp only [parseTargets, targetsOf, lists.1, lists.2]
  cases (recordsIn items).mapM Target.ofRecord <;> rfl

/-- A text without a list gives no targets, unless the reader stops at a long integer. -/
theorem parseTargets_of_unlisted (unlisted : ∀ items, ¬ Lists raw items) :
    (¬ HoldsLongInteger raw ∧ parseTargets (some raw) = .ok []) ∨
      (HoldsLongInteger raw ∧ parseTargets (some raw) = .error .numberTooLong) := by
  unfold HoldsLongInteger
  unfold Lists at unlisted
  cases blank : Text.isBlankText raw with
  | true => exact .inl ⟨nofun, by simp only [parseTargets, blank, if_true]⟩
  | false =>
    cases read : Json.read raw with
    | error e =>
      cases e with
      | malformed => exact .inl ⟨nofun, by simp [parseTargets, targetsOf, blank, read]⟩
      | numberTooLong => exact .inr ⟨⟨rfl, rfl⟩, by simp [parseTargets, targetsOf, blank, read]⟩
      | tooDeep => exact absurd read (Json.read_getsThrough raw)
    | ok v =>
      have refused (other : ∀ items, v ≠ .list items) : parseTargets (some raw) = .ok [] := by
        cases v <;> simp_all [parseTargets, targetsOf]
      exact .inl ⟨nofun, refused fun items same => unlisted items ⟨blank, same ▸ read⟩⟩

/-- A text that lists something is taken exactly where every object of the list holds tables. -/
theorem taken_of_lists_iff (lists : Lists raw items) :
    (∃ targets, parseTargets (some raw) = .ok targets) ↔
      ∀ record, .table record ∈ items → HoldsTables record := by
  rw [parseTargets_of_lists lists]
  rcases describe_cases (recordsIn items) with ⟨held, targets, described, -⟩ |
    ⟨⟨record, inside, refused⟩, failed⟩
  · rw [described]
    exact iff_of_true ⟨targets, rfl⟩ fun record inside => held record (mem_recordsIn.mpr inside)
  · rw [failed]
    exact iff_of_false nofun fun held => refused (held record (mem_recordsIn.mp inside))

/-- Where a text that lists something is taken, each object of the list gives one target, in order.
-/
theorem forall₂_of_taken {targets : List Target} (lists : Lists raw items)
    (taken : parseTargets (some raw) = .ok targets) :
    List.Forall₂ (fun v target => ∃ record, v = .table record ∧ Target.ofRecord record = .ok target)
      (items.filter isObject) targets := by
  rw [parseTargets_of_lists lists] at taken
  rcases describe_cases (recordsIn items) with ⟨-, targets', described, each⟩ | ⟨-, failed⟩
  · rw [described] at taken
    obtain rfl := Except.ok.inj taken
    rw [filter_isObject, List.forall₂_map_left_iff]
    exact each.imp fun record target same => ⟨record, rfl, same⟩
  · rw [failed] at taken
    cases taken

/-- What nests too deep gives nothing; what does not is parsed as if there were no limit. -/
theorem parseTargetsWithin?_cases (limit : Nat) (raw : String) :
    (NestsTooDeep limit raw ∧ parseTargetsWithin? limit (some raw) = none) ∨
      (¬ NestsTooDeep limit raw ∧
        parseTargetsWithin? limit (some raw) = some (parseTargets (some raw))) := by
  unfold NestsTooDeep
  cases blank : Text.isBlankText raw with
  | true => exact .inr ⟨nofun, by simp only [parseTargetsWithin?, parseTargets, blank, if_true]⟩
  | false =>
    cases deep : Json.nestsBeyond limit raw with
    | true =>
      refine .inl ⟨⟨rfl, rfl⟩, ?_⟩
      simp [parseTargetsWithin?, blank, Json.nestsBeyond_eq_true_iff.mp deep]
    | false =>
      refine .inr ⟨nofun, ?_⟩
      have through := Json.read_getsThrough raw
      rw [parseTargetsWithin?, parseTargets, Json.readWithin_eq_read deep]
      simp only [blank, Bool.false_eq_true, if_false]
      split
      · rename_i stopped
        exact absurd stopped through
      · rfl

/-- Without a limit, text is taken as a list of targets exactly where the reader stops at no long
integer and every object of a list that it holds has tables for headers and environment, or
something there that counts as false. -/
theorem taken_iff (raw : String) :
    (∃ targets, parseTargets (some raw) = .ok targets) ↔
      ¬ HoldsLongInteger raw ∧
        ∀ items record, Lists raw items → .table record ∈ items → HoldsTables record := by
  by_cases listed : ∃ items, Lists raw items
  · obtain ⟨items, lists⟩ := listed
    have short : ¬ HoldsLongInteger raw := by
      rintro ⟨-, stopped⟩
      cases stopped.symm.trans lists.2
    refine (taken_of_lists_iff lists).trans
      ⟨fun held => ⟨short, ?_⟩, fun both record inside => ?_⟩
    · rintro items' record lists' inside
      obtain rfl := Value.list.inj (Except.ok.inj (lists'.2.symm.trans lists.2))
      exact held record inside
    · exact both.2 items record lists inside
  · have unlisted := not_exists.mp listed
    rcases parseTargets_of_unlisted unlisted with ⟨short, read⟩ | ⟨long, stopped⟩
    · exact iff_of_true ⟨[], read⟩ ⟨short, fun items _ lists => absurd lists (unlisted items)⟩
    · refine iff_of_false ?_ fun taken => taken.1 long
      rintro ⟨targets, taken⟩
      cases stopped.symm.trans taken

/-- Text is taken as a list of targets exactly where it nests no deeper than the reader goes, the
reader stops at no long integer and every object of a list that it holds has tables for headers and
environment, or something there that counts as false. Text that holds no list gives no targets then,
and the objects of a list give one target each, in order. -/
theorem targets_parsed_iff (limit : Nat) (raw : String) :
    let result := parseTargetsWithin? limit (some raw)
    ((∃ targets, result = some (.ok targets)) ↔
      ¬ NestsTooDeep limit raw ∧ ¬ HoldsLongInteger raw ∧
        ∀ items record, Lists raw items → .table record ∈ items → HoldsTables record) ∧
    (¬ NestsTooDeep limit raw → ¬ HoldsLongInteger raw → (∀ items, ¬ Lists raw items) →
      result = some (.ok [])) ∧
    ∀ items targets, Lists raw items → result = some (.ok targets) →
      List.Forall₂
        (fun v target => ∃ record, v = .table record ∧ Target.ofRecord record = .ok target)
        (items.filter isObject) targets := by
  intro result
  rcases parseTargetsWithin?_cases limit raw with ⟨deep, nothing⟩ | ⟨shallow, parsed⟩
  · refine ⟨iff_of_false ?_ fun taken => taken.1 deep, fun shallow => absurd deep shallow,
      fun items targets _ taken => ?_⟩
    · rintro ⟨targets, taken⟩
      cases nothing.symm.trans taken
    · cases nothing.symm.trans taken
  · have same : result = some (parseTargets (some raw)) := parsed
    rw [same]
    simp only [Option.some.injEq]
    refine ⟨(taken_iff raw).trans (and_iff_right shallow).symm, fun _ short unlisted => ?_,
      fun _ _ => forall₂_of_taken⟩
    exact ((parseTargets_of_unlisted unlisted).resolve_right fun stopped => short stopped.1).2

/-- A text in the place of headers refuses the whole list, though it nests no deeper than two. -/
theorem headers_refuse_list :
    parseTargetsWithin? 2 (some "[\x7b\"name\": \"z\", \"headers\": \"x\"\x7d]") =
      some (.error (.target .notATable)) := by
  decide +kernel

end AccountSidecar.Webhook
