import AccountSidecar.Proofs.History
import AccountSidecar.Proofs.TableSteps

/-!
# Records that are used once

Reset tokens and codes stand under drawn identifiers and are marked when they are used. The ways in
which such a table may change (`Keyed.Move`) never bring an unused record back under a spent key, as
long as the identifiers are distinct (`Keyed.Spent.move`). So what was redeemed or consumed once in
a run stays spent to its end (`spending_after`).
-/

namespace AccountSidecar

namespace Keyed

variable {α : Type} {identifier : Nat → String} {used : α → Bool} {count count' : Nat}
  {table table' : Keyed α} {key : String}

/-- Whether the keys of a table are distinct and were all drawn. -/
structure Drawn (identifier : Nat → String) (count : Nat) (table : Keyed α) : Prop where
  distinct : table.Distinct
  drawn : ∀ key ∈ table.keys, ∃ n < count, key = identifier n

/-- Whether a key was drawn and no unused record stands under it. -/
structure Spent (identifier : Nat → String) (used : α → Bool) (count : Nat) (table : Keyed α)
    (key : String) : Prop where
  drawn : ∃ n < count, key = identifier n
  marked : ∀ value, (key, value) ∈ table → used value = true

/-- How a table of records that are used once may change, while identifiers are drawn. -/
inductive Move (identifier : Nat → String) (used : α → Bool) (count count' : Nat)
    (table : Keyed α) : Keyed α → Prop
  | kept : Move identifier used count count' table table
  | issued (value : α) (next : count' = count + 1) :
      Move identifier used count count' table (put (identifier count) value table)
  | marked {key : String} (there : key ∈ table.keys) (value : α) (done : used value = true) :
      Move identifier used count count' table (put key value table)
  | dropped (keep : String × α → Bool) :
      Move identifier used count count' table (table.filter keep)

/-- The key of a record is one of the keys. -/
theorem key_mem {e : String × α} (inside : e ∈ table) : e.1 ∈ table.keys :=
  List.mem_map.mpr ⟨e, inside, rfl⟩

/-- A key is that of a record. -/
theorem exists_of_key_mem (there : key ∈ table.keys) : ∃ value, (key, value) ∈ table := by
  obtain ⟨e, inside, rfl⟩ := List.mem_map.mp there
  exact ⟨e.2, inside⟩

/-- The empty table has no keys. -/
theorem Drawn.nil (identifier : Nat → String) (count : Nat) :
    Drawn identifier count ([] : Keyed α) :=
  ⟨List.nodup_nil, fun _ inside => by cases inside⟩

/-- The keys of a table stay distinct. -/
theorem Distinct.move (distinct : table.Distinct)
    (move : Move identifier used count count' table table') : table'.Distinct := by
  cases move with
  | kept => exact distinct
  | issued value next => exact distinct.put _ value
  | marked there value done => exact distinct.put _ value
  | dropped keep => exact distinct.filter keep

/-- The keys of a table stay distinct and drawn. -/
theorem Drawn.move (holds : Drawn identifier count table) (grows : count ≤ count')
    (move : Move identifier used count count' table table') :
    Drawn identifier count' table' := by
  have old (key) (there : key ∈ table.keys) : ∃ n < count', key = identifier n := by
    obtain ⟨n, below, same⟩ := holds.drawn key there
    exact ⟨n, Nat.lt_of_lt_of_le below grows, same⟩
  refine ⟨holds.distinct.move move, fun key there => ?_⟩
  cases move with
  | kept => exact old key there
  | issued value next =>
    obtain ⟨v, inside⟩ := exists_of_key_mem there
    rcases mem_put inside with same | inside
    · exact ⟨count, by omega, congrArg Prod.fst same⟩
    · exact old key (key_mem inside)
  | marked among value done =>
    rw [keys_put, if_pos among] at there
    exact old key there
  | dropped keep =>
    obtain ⟨v, inside⟩ := exists_of_key_mem there
    exact old key (key_mem (List.mem_of_mem_filter inside))

/-- A spent key stays spent: a fresh record stands under another identifier. -/
theorem Spent.move (injective : Function.Injective identifier)
    (holds : Spent identifier used count table key) (grows : count ≤ count')
    (move : Move identifier used count count' table table') :
    Spent identifier used count' table' key := by
  obtain ⟨⟨n, below, own⟩, marked⟩ := holds
  refine ⟨⟨n, Nat.lt_of_lt_of_le below grows, own⟩, fun v inside => ?_⟩
  cases move with
  | kept => exact marked v inside
  | issued value next =>
    rcases mem_put inside with same | inside
    · have collision : identifier n = identifier count :=
        own.symm.trans (congrArg Prod.fst same)
      have equal := injective collision
      omega
    · exact marked v inside
  | marked there value done =>
    rcases mem_put inside with same | inside
    · rw [show v = value from congrArg Prod.snd same]
      exact done
    · exact marked v inside
  | dropped keep => exact marked v (List.mem_of_mem_filter inside)

/-- A key under which a used record is found is spent. -/
theorem Drawn.spent {value : α} (holds : Drawn identifier count table)
    (found : find? key table = some value) (done : used value = true) :
    Spent identifier used count table key := by
  refine ⟨holds.drawn key (key_mem (mem_of_find? found)), fun v inside => ?_⟩
  have same := (find?_of_mem holds.distinct inside).symm.trans found
  rw [Option.some.inj same]
  exact done

end Keyed

open Account

variable {d : Deployment} {w w' : World} {op : Operation}

/-- Operations change the reset tokens as records that are used once. -/
theorem TokensStep.move (change : TokensStep d w w' op) :
    Keyed.Move d.sources.identifier State.ResetToken.used w.drawn.identifiers
      w'.drawn.identifiers w.tables.resetTokens w'.tables.resetTokens := by
  cases change with
  | kept same => exact same ▸ .kept
  | issued found drawn put => exact put ▸ .issued _ drawn
  | claimed claimed marked =>
    obtain ⟨r, found, -, -, -, rfl⟩ := State.Tables.claimResetToken_eq_ok claimed
    exact marked ▸ .marked (Keyed.key_mem (Keyed.mem_of_find? found)) _ rfl
  | purged dropped => exact dropped ▸ .dropped _

/-- Operations change the codes as records that are used once. -/
theorem CodesStep.move (change : CodesStep d w w' op) :
    Keyed.Move d.sources.identifier State.SmsCode.used w.drawn.identifiers
      w'.drawn.identifiers w.tables.smsCodes w'.tables.smsCodes := by
  cases change with
  | kept same => exact same ▸ .kept
  | stored known drawn put => exact put ▸ .issued _ drawn
  | consumed used marked =>
    obtain ⟨id, c, found, -, -, -, -, rfl⟩ := State.Tables.consumeSmsCode_eq_ok used
    exact marked ▸ .marked (Keyed.key_mem found) _ rfl
  | purged dropped => exact dropped ▸ .dropped _

namespace Step

/-- Whether an operation set a password with a reset token and came to its end. -/
def Redeems (s : Step) (token : String) : Prop :=
  ∃ password reply, s.operation = .resetPassword token password ∧ s.result = .ok reply

/-- Whether an operation marked a code as used. -/
def ConsumesCode (s : Step) (id : String) : Prop :=
  ∃ phone code password c, s.operation = .resetPasswordSms phone code password ∧
    Keyed.find? id s.before.tables.smsCodes = some c ∧ c.used = false ∧
    Keyed.find? id s.after.tables.smsCodes = some { c with used := true }

end Step

/-- A redeemed token is left marked. -/
theorem Operation.find?_of_redeems {token : String} (redeems : (op.step d w).Redeems token) :
    ∃ r, Keyed.find? token (op.step d w).after.tables.resetTokens = some r ∧ r.used = true := by
  obtain ⟨password, reply, asked, ended⟩ := redeems
  obtain rfl : op = .resetPassword token password := asked
  rcases resetPassword_cases d token password w with ⟨u, t, w', claimed, run, marked⟩ |
    ⟨e, w', run, -⟩ <;> rw [step_of_reply rfl run] at ended ⊢
  · obtain ⟨r, -, -, -, -, rfl⟩ := State.Tables.claimResetToken_eq_ok claimed
    dsimp only
    rw [marked]
    exact ⟨_, Keyed.find?_put_self token _ _, rfl⟩
  · cases ended

/-- Whether what was redeemed or consumed earlier is spent. -/
structure Spending (d : Deployment) (earlier : List Step) (w : World) : Prop where
  tokens : Keyed.Drawn d.sources.identifier w.drawn.identifiers w.tables.resetTokens
  codes : Keyed.Drawn d.sources.identifier w.drawn.identifiers w.tables.smsCodes
  redeemed : ∀ s ∈ earlier, ∀ token, s.Redeems token →
    Keyed.Spent d.sources.identifier State.ResetToken.used w.drawn.identifiers
      w.tables.resetTokens token
  consumed : ∀ s ∈ earlier, ∀ id, s.ConsumesCode id →
    Keyed.Spent d.sources.identifier State.SmsCode.used w.drawn.identifiers w.tables.smsCodes id

namespace Spending

variable {earlier : List Step}

/-- With empty tables nothing was spent. -/
theorem of_empty (d : Deployment) (empty : w.tables = {}) : Spending d [] w := by
  refine ⟨?_, ?_, fun _ among => absurd among List.not_mem_nil,
    fun _ among => absurd among List.not_mem_nil⟩ <;> rw [empty]
  · exact .nil _ _
  · exact .nil _ _

/-- An operation leaves what was spent spent, and spends what it redeems or consumes. -/
theorem step (apart : d.FilesApart) (distinct : Function.Injective d.sources.identifier)
    (op : Operation) (holds : Spending d earlier w) :
    Spending d (earlier ++ [op.step d w]) (op.step d w).after := by
  have grows : w.drawn.identifiers ≤ (op.step d w).after.drawn.identifiers :=
    op.identifiers_le apart w
  have tokensMove := TokensStep.move (op.perform_tokens (d := d) w)
  have codesMove := CodesStep.move (op.perform_codes (d := d) w)
  have tokens := holds.tokens.move grows tokensMove
  have codes := holds.codes.move grows codesMove
  refine ⟨tokens, codes, fun s among token redeems => ?_, fun s among id consumes => ?_⟩
  · rcases List.mem_append.mp among with among | among
    · exact (holds.redeemed s among token redeems).move distinct grows tokensMove
    · obtain rfl := List.mem_singleton.mp among
      obtain ⟨r, found, used⟩ := Operation.find?_of_redeems redeems
      exact tokens.spent found used
  · rcases List.mem_append.mp among with among | among
    · exact (holds.consumed s among id consumes).move distinct grows codesMove
    · obtain rfl := List.mem_singleton.mp among
      obtain ⟨_, _, _, c, -, -, -, found⟩ := consumes
      exact codes.spent found rfl

end Spending

/-- In a run from empty tables what was redeemed or consumed is spent. -/
theorem World.spending_after (apart : d.FilesApart)
    (distinct : Function.Injective d.sources.identifier) {start : World}
    (empty : start.tables = {}) (events : List Event) :
    Spending d (start.steps d events) (start.after d events) :=
  run_induction (.of_empty d empty) (fun _ _ op holds => holds.step apart distinct op)
    (fun _ _ _ _ _ holds => ⟨holds.tokens, holds.codes, holds.redeemed, holds.consumed⟩) events

/-- A spent token stays spent through every run. -/
theorem World.spent_after (apart : d.FilesApart)
    (distinct : Function.Injective d.sources.identifier) {token : String}
    (spent : Keyed.Spent d.sources.identifier State.ResetToken.used w.drawn.identifiers
      w.tables.resetTokens token) (events : List Event) :
    Keyed.Spent d.sources.identifier State.ResetToken.used (w.after d events).drawn.identifiers
      (w.after d events).tables.resetTokens token :=
  invariant_after
    (fun w => Keyed.Spent d.sources.identifier State.ResetToken.used w.drawn.identifiers
      w.tables.resetTokens token)
    (fun w op holds => holds.move distinct (op.identifiers_le apart w)
      (TokensStep.move (op.perform_tokens w)))
    (fun _ _ _ _ holds => holds) events spent

end AccountSidecar
