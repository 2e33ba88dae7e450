import AccountSidecar.Proofs.NewAccounts
import AccountSidecar.Proofs.PasswordCheck
import AccountSidecar.Proofs.Sessions

/-!
# Logging in after a signup

Whoever signed up without approval can log in with the username and password of the signup exactly
where the username is legible, and the session stands for that username until its time is over
(`login_after_signup_iff`). Under any other username the line of the account is read as somebody
else's or as none, and the login is refused.
-/

namespace AccountSidecar

open Storage AccountSidecar.Action Users

variable {d : Deployment} {w w' : World}

/-- Whether a login opens a session that stands for the user until its time is over. -/
def OpensSession (d : Deployment) (w : World) (username password : String) : Prop :=
  ∃ token w', (Session.login d username password).runIn w = (.ok token, w') ∧
    ∀ time ≤ w.clock + d.sessionTtl,
      (Session.username (some token)).runIn { w' with clock := time } =
        (.ok username, { w' with clock := time })

/-- A user who is found with a hash of the password opens a session. -/
theorem opensSession_of_find {username saltText password hash : String}
    (tokens : ∀ n, d.sources.sessionToken n ≠ "")
    (hashed : Password.hash? saltText password = some hash)
    (found : w.find d username = .ok (some { username, password := hash })) :
    OpensSession d w username password := by
  have run := Session.runIn_login d username password w
  rw [found] at run
  dsimp only at run
  rw [if_pos (Password.verify_of_hash? hashed)] at run
  refine ⟨_, _, run, fun time lasting => ?_⟩
  have opened := State.Tables.session?_createSession w.tables
    (d.sources.sessionToken w.drawn.sessionTokens) username w.clock (w.clock + d.sessionTtl)
  rw [Session.runIn_username (tokens _)]
  dsimp only
  rw [opened]
  dsimp only
  rw [if_neg (by simpa [State.Session.isExpired] using lasting)]

/-- After a signup that created the account, the user is found exactly where the username is
legible. -/
theorem Account.find_of_signup {username email password phone : String} (apart : d.FilesApart)
    (done : (signup d username email password phone).runIn w = (.ok .approved, w')) :
    ∃ saltText hash, Password.hash? saltText password = some hash ∧
      (IsLegibleName username → w'.find d username = .ok (some { username, password := hash })) ∧
      (¬ IsLegibleName username → w'.find d username = .ok none) := by
  obtain ⟨hash, files, accepts, written, kept⟩ := signup_eq_approved apart done
  obtain ⟨all, read, absent⟩ := World.lookup?_of_find accepts.absent
  have after := (load_congr kept).trans (load_upsert_fresh read
    (Password.ne_empty_of_hash? accepts.hashed)
    (Password.isPlainText_of_hash? accepts.hashed).isSolid written)
  rw [absent, Option.isSome_none, if_neg Bool.false_ne_true] at after
  have recorded := recordedName?_eq_self_iff (colon_not_mem_of_valid accepts.valid)
  have gone := lookup?_settled_of_none absent
  refine ⟨_, hash, accepts.hashed, fun legible => ?_, fun illegible => ?_⟩
  · rw [World.find, after, recorded.mpr legible]
    unfold lookup? at gone ⊢
    simp [Except.map, List.find?_append, gone]
  · have other : recordedName? username ≠ some username := mt recorded.mp illegible
    rw [World.find, after]
    unfold lookup? at gone ⊢
    rw [Except.map, List.find?_append, gone, Option.none_or]
    cases named : recordedName? username with
    | none => rfl
    | some name =>
      rw [named, Ne, Option.some_inj] at other
      simp [other]

/-- Logging in after a signup. Right after a signup that created an account, at any reading of the
clock, a login with its username and password opens a session that stands for the user until its
time is over where the username is legible, and is turned away where it is not. -/
theorem login_after_signup_iff (apart : d.FilesApart)
    (tokens : ∀ n, d.sources.sessionToken n ≠ "") {username email password phone : String}
    (done : (Account.signup d username email password phone).runIn w = (.ok .approved, w'))
    (time : Int) :
    (OpensSession d { w' with clock := time } username password ↔ IsLegibleName username) ∧
    (¬ IsLegibleName username →
      (Session.login d username password).runIn { w' with clock := time } =
        (.error (.account (.of .invalidCredentials)), { w' with clock := time })) := by
  obtain ⟨saltText, hash, hashed, found, absent⟩ := Account.find_of_signup apart done
  have refused (illegible : ¬ IsLegibleName username) :
      (Session.login d username password).runIn { w' with clock := time } =
        (.error (.account (.of .invalidCredentials)), { w' with clock := time }) := by
    rw [Session.runIn_login, show World.find d { w' with clock := time } username = .ok none from
      absent illegible]
  refine ⟨⟨?_, fun legible => opensSession_of_find tokens hashed (found legible)⟩, refused⟩
  rintro ⟨token, w₂, run, -⟩
  refine Classical.byContradiction fun illegible => ?_
  rw [refused illegible] at run
  cases (Prod.mk.inj run).1

/-- The sample without approval, with session tokens that are not empty. -/
def Deployment.sampleTokens : Deployment :=
  { sample false with
    sources := { (sample false).sources with
      sessionToken := fun n => String.ofList (List.replicate (n + 1) 't') } }

/-- No session token of the sample is empty. -/
theorem Deployment.sampleTokens_ne_empty (n : Nat) :
    sampleTokens.sources.sessionToken n ≠ "" := by
  simp [sampleTokens]

/-- Logging in as alice after a signup: the theorem at the sample, where the name is legible. -/
theorem login_after_signup_iff_legible :
    let d := Deployment.sampleTokens
    ∃ w', (Account.signup d "alice" "" "pw" "").runIn (World.sample []) = (.ok .approved, w') ∧
      IsLegibleName "alice" ∧
      (OpensSession d { w' with clock := 0 } "alice" "pw" ↔ IsLegibleName "alice") ∧
      (¬ IsLegibleName "alice" →
        (Session.login d "alice" "pw").runIn { w' with clock := 0 } =
          (.error (.account (.of .invalidCredentials)), { w' with clock := 0 })) := by
  intro d
  obtain ⟨hash, files, -, -, run⟩ := World.runIn_signup_sample (d := d) [] "alice" "pw" rfl rfl
    (Deployment.sample_salt false 0) (by decide) (by decide) (by decide)
  have apart : d.FilesApart := ⟨(Deployment.sample_filesApart false).1,
    (Deployment.sample_filesApart false).2⟩
  have legible : IsLegibleName "alice" :=
    (recordedName?_eq_self_iff (by decide)).mp (by decide)
  exact ⟨_, run, legible, login_after_signup_iff apart Deployment.sampleTokens_ne_empty run 0⟩

/-- A signup under a username of two lines is approved, and the login after it turned away. -/
theorem login_refused_after_signup :
    let d := Deployment.sampleTokens
    ∃ w', (Account.signup d "al\x0bice" "" "pw" "").runIn (World.sample []) =
        (.ok .approved, w') ∧
      (Session.login d "al\x0bice" "pw").runIn w' =
        (.error (.account (.of .invalidCredentials)), w') := by
  intro d
  obtain ⟨hash, files, hashed, written, run⟩ := World.runIn_signup_sample (d := d) []
    "al\x0bice" "pw" rfl rfl (Deployment.sample_salt false 0) (by decide) (by decide) (by decide)
  have printed : (World.sample []).files.look ["users"] = .content (print []).toUTF8 := rfl
  have after := load_upsert_fresh (load_of_printed printed) (Password.ne_empty_of_hash? hashed)
    (Password.isPlainText_of_hash? hashed).isSolid written
  have recorded : recordedName? "al\x0bice" = some "ice" := by decide
  refine ⟨_, run, ?_⟩
  rw [Session.runIn_login, World.find]
  dsimp only
  rw [show d.usersFile = ["users"] from rfl, after, recorded]
  rfl

end AccountSidecar
