import DbAccess.Dsn
import DbAccess.Proofs.Text.Digits
import DbAccess.Proofs.Text.Mark
/-!
# Connection strings tell options apart

`ConnectionOptions.postgres` and `ConnectionOptions.mysql` write the options as they are, one behind the other,
and escape nothing. So a text in the options that holds the mark which should end it can pass for other
options (`same_string_of_smuggled`). Options without such texts (`PlainKeywords`, `PlainAddress`) can be told
from the string, up to what stands for the usual port and the usual mode (`options_told_apart`).
-/

namespace DbAccess.ConnectionOptions

open Text

/-- The mark stands somewhere in the text. -/
def Holds (text mark : String) : Prop := mark.toList <:+: text.toList

instance (text mark : String) : Decidable (Holds text mark) := inferInstanceAs (Decidable (_ <:+: _))

/-- What no option may hold among keywords: the keyword behind it. -/
structure PlainKeywords (o : ConnectionOptions) : Prop where
  host : ¬ Holds o.host " port="
  user : ¬ Holds o.user " password="
  password : ¬ Holds o.password " dbname="
  database : ¬ Holds o.database " sslmode="
  sslMode : ¬ Assigns ' ' (o.sslMode.getD "disable").toList
  extra : ∀ p ∈ o.extra.entries, PlainPair ' ' p

/-- What no option may hold in an address: the mark behind it. -/
structure PlainAddress (o : ConnectionOptions) : Prop where
  user : ¬ Holds o.user ":"
  password : ¬ Holds o.password "@tcp("
  host : ¬ Holds o.host ")/"
  database : ¬ Holds o.database "?parseTime=true"
  extra : ∀ p ∈ o.extra.entries, PlainPair '&' p

/-- The options say the same, apart from how connections are secured. -/
structure Alike (usualPort : Nat) (o o' : ConnectionOptions) : Prop where
  host : o.host = o'.host
  port : o.portOr usualPort = o'.portOr usualPort
  user : o.user = o'.user
  password : o.password = o'.password
  database : o.database = o'.database
  extra : o.extra = o'.extra

variable {o o' : ConnectionOptions} {dsn : String}

/-! ### What is written -/

/-- The keywords that are always written. -/
def keywords (o : ConnectionOptions) : List (String × String) :=
  [("host", o.host), ("port", toString (o.portOr 5432)), ("user", o.user), ("password", o.password),
    ("dbname", o.database), ("sslmode", o.sslMode.getD "disable")]

theorem cons_toList_intercalate {separator : Char} {text : String} (htext : text.toList = [separator])
    {ps : List (String × String)} (hps : ps ≠ []) :
    separator :: (String.intercalate text (ps.map pairText)).toList = assignments separator ps := by
  induction ps with
  | nil => exact absurd rfl hps
  | cons p ps ih =>
      cases ps with
      | nil => simp [String.intercalate_singleton, assignments, pairText, String.toList_append]
      | cons q qs =>
          have hrest := ih (List.cons_ne_nil q qs)
          rw [assignments_cons, ← hrest, List.map_cons, List.map_cons, String.intercalate_cons_cons]
          simp [pairText, String.toList_append, htext]

theorem postgres_eq (h : o.postgres = .ok dsn) :
    dsn = String.intercalate " " ((o.keywords ++ o.extra.entries).map pairText) := by
  unfold postgres at h
  cases haccepted : o.requireHost "postgres" with
  | error e => rw [haccepted] at h; cases h
  | ok u =>
      rw [haccepted] at h
      exact (Except.ok.inj h).symm

theorem toList_postgres (h : o.postgres = .ok dsn) :
    ' ' :: dsn.toList =
      " host=".toList ++ (o.host.toList ++ (" port=".toList ++ ((toString (o.portOr 5432)).toList ++
        (" user=".toList ++ (o.user.toList ++ (" password=".toList ++ (o.password.toList ++
          (" dbname=".toList ++ (o.database.toList ++ (" sslmode=".toList ++
            ((o.sslMode.getD "disable").toList ++ assignments ' ' o.extra.entries))))))))))) := by
  rw [postgres_eq h, cons_toList_intercalate rfl (by simp [keywords])]
  simp only [keywords, List.cons_append, List.nil_append, assignments_cons]
  rfl

theorem mysql_eq (h : o.mysql = .ok dsn) :
    dsn = o.user ++ ":" ++ o.password ++ "@tcp(" ++ o.host ++ ":" ++ toString (o.portOr 3306) ++ ")/" ++
      o.database ++ "?" ++ String.intercalate "&" ((("parseTime", "true") :: o.extra.entries).map pairText) := by
  unfold mysql at h
  cases haccepted : o.requireHost "mysql" with
  | error e => rw [haccepted] at h; cases h
  | ok u =>
      rw [haccepted] at h
      exact (Except.ok.inj h).symm

theorem toList_mysql (h : o.mysql = .ok dsn) :
    dsn.toList =
      o.user.toList ++ (":".toList ++ (o.password.toList ++ ("@tcp(".toList ++
        ((o.host.toList ++ ':' :: (toString (o.portOr 3306)).toList) ++ (")/".toList ++
          (o.database.toList ++ ("?parseTime=true".toList ++ assignments '&' o.extra.entries))))))) := by
  have hquery : '&' :: (String.intercalate "&" ((("parseTime", "true") :: o.extra.entries).map pairText)).toList =
      '&' :: ("parseTime=true".toList ++ assignments '&' o.extra.entries) := by
    rw [cons_toList_intercalate rfl (List.cons_ne_nil _ _), assignments_cons]
    rfl
  rw [mysql_eq h]
  simp only [String.toList_append, List.append_assoc, (List.cons.inj hquery).2]
  rfl

/-! ### What is told from it -/

theorem not_mem_toString {c : Char} (hc : isDigit c = false) (n : Nat) : c ∉ (toString n).toList := by
  intro hmem
  rw [isDigit_of_mem_toString hmem] at hc
  cases hc

theorem toString_inj {n n' : Nat} (h : (toString n).toList = (toString n').toList) : n = n' := by
  rw [← digitsValue_toString n, h, digitsValue_toString]

theorem alike_of_postgres (ho : o.PlainKeywords) (ho' : o'.PlainKeywords) (h : o.postgres = .ok dsn)
    (h' : o'.postgres = .ok dsn) :
    Alike 5432 o o' ∧ o.sslMode.getD "disable" = o'.sslMode.getD "disable" := by
  have hspace : ∀ n : Nat, ' ' ∉ (toString n).toList := not_mem_toString (by decide)
  have hport : ∀ n : Nat, ¬ " user=".toList <:+: (toString n).toList :=
    fun n hstands => hspace n (hstands.subset (by decide))
  have hall := (toList_postgres h).symm.trans (toList_postgres h')
  obtain ⟨hhost, hall⟩ := append_mark_inj (by decide) ho.host ho'.host (List.append_cancel_left hall)
  obtain ⟨hports, hall⟩ := append_mark_inj (by decide) (hport _) (hport _) hall
  obtain ⟨huser, hall⟩ := append_mark_inj (by decide) ho.user ho'.user hall
  obtain ⟨hpassword, hall⟩ := append_mark_inj (by decide) ho.password ho'.password hall
  obtain ⟨hdatabase, hall⟩ := append_mark_inj (by decide) ho.database ho'.database hall
  obtain ⟨hmode, hextra⟩ := assignments_inj (by decide) ho.extra ho'.extra ho.sslMode ho'.sslMode hall
  exact ⟨⟨String.toList_inj.mp hhost, toString_inj hports, String.toList_inj.mp huser,
    String.toList_inj.mp hpassword, String.toList_inj.mp hdatabase, Parameters.ext hextra⟩, String.toList_inj.mp hmode⟩

theorem alike_of_mysql (ho : o.PlainAddress) (ho' : o'.PlainAddress) (h : o.mysql = .ok dsn)
    (h' : o'.mysql = .ok dsn) : Alike 3306 o o' := by
  have hcolon : ∀ n : Nat, ':' ∉ (toString n).toList := not_mem_toString (by decide)
  have hslash : ∀ n : Nat, '/' ∉ ':' :: (toString n).toList := fun n =>
    List.not_mem_cons_of_ne_of_not_mem (by decide) (not_mem_toString (by decide) n)
  have hmark : ")/".toList = [')'] ++ ['/'] := rfl
  -- A host with a port behind it holds the mark only if the host does.
  have hplace : ∀ {o : ConnectionOptions} (n : Nat), o.PlainAddress →
      ¬ ")/".toList <:+: o.host.toList ++ ':' :: (toString n).toList := fun n ho hstands => by
    rw [hmark] at hstands
    exact ho.host (infix_of_infix_append (hslash n) hstands)
  have hnone : ¬ Assigns '&' [] := by decide
  have hall := (toList_mysql h).symm.trans (toList_mysql h')
  obtain ⟨huser, hall⟩ := append_mark_inj (by decide) ho.user ho'.user hall
  obtain ⟨hpassword, hall⟩ := append_mark_inj (by decide) ho.password ho'.password hall
  obtain ⟨hplaces, hall⟩ := append_mark_inj (by decide) (hplace _ ho) (hplace _ ho') hall
  obtain ⟨hdatabase, hall⟩ := append_mark_inj (by decide) ho.database ho'.database hall
  obtain ⟨hhost, hports⟩ := append_last_inj (hcolon _) (hcolon _) hplaces
  obtain ⟨-, hextra⟩ := assignments_inj (by decide) ho.extra ho'.extra hnone hnone hall
  exact ⟨String.toList_inj.mp hhost, toString_inj hports, String.toList_inj.mp huser,
    String.toList_inj.mp hpassword, String.toList_inj.mp hdatabase, Parameters.ext hextra⟩

theorem postgres_eq_of_alike {dsn' : String} (halike : Alike 5432 o o')
    (hmode : o.sslMode.getD "disable" = o'.sslMode.getD "disable") (h : o.postgres = .ok dsn)
    (h' : o'.postgres = .ok dsn') : dsn = dsn' := by
  rw [postgres_eq h, postgres_eq h', keywords, keywords, halike.host, halike.port, halike.user,
    halike.password, halike.database, halike.extra, hmode]

theorem mysql_eq_of_alike {dsn' : String} (halike : Alike 3306 o o') (h : o.mysql = .ok dsn)
    (h' : o'.mysql = .ok dsn') : dsn = dsn' := by
  rw [mysql_eq h, mysql_eq h', halike.host, halike.port, halike.user, halike.password, halike.database,
    halike.extra]

/-- **Connection strings tell options apart.** Two options that are accepted, and hold no text that looks like
the mark behind it, are written as the same string exactly if they say the same, where no port stands for the
usual one, and no mode of securing the connection for `disable`. -/
theorem options_told_apart (o o' : ConnectionOptions) (dsn dsn' : String) :
    (o.PlainKeywords → o'.PlainKeywords → o.postgres = .ok dsn → o'.postgres = .ok dsn' →
      (dsn = dsn' ↔ Alike 5432 o o' ∧ o.sslMode.getD "disable" = o'.sslMode.getD "disable")) ∧
    (o.PlainAddress → o'.PlainAddress → o.mysql = .ok dsn → o'.mysql = .ok dsn' →
      (dsn = dsn' ↔ Alike 3306 o o')) := by
  refine ⟨fun ho ho' h h' => ⟨?_, ?_⟩, fun ho ho' h h' => ⟨?_, ?_⟩⟩
  · rintro rfl
    exact alike_of_postgres ho ho' h h'
  · rintro ⟨halike, hmode⟩
    exact postgres_eq_of_alike halike hmode h h'
  · rintro rfl
    exact alike_of_mysql ho ho' h h'
  · exact fun halike => mysql_eq_of_alike halike h h'

/-- Texts with spaces, equals signs and other marks, none of which ends the text that it stands in. -/
def prickly : ConnectionOptions :=
  ⟨"::1", 0, "app user", "p w=1@/?&x", "orders=2 db", none, ⟨[("application_name", "a=b & c")], by decide⟩⟩

/-- The same with the usual values said. -/
def spelledOut (usualPort : Nat) : ConnectionOptions :=
  { prickly with port := usualPort, sslMode := some "disable" }

theorem prickly_told_apart :
    (∃ dsn, prickly.postgres = .ok dsn ∧ (spelledOut 5432).postgres = .ok dsn) ∧
      (∃ dsn, prickly.mysql = .ok dsn ∧ (spelledOut 3306).mysql = .ok dsn) ∧
      prickly.postgres ≠ (spelledOut 3306).postgres := by
  have hkeywords : ∀ o ∈ [prickly, spelledOut 5432, spelledOut 3306], o.PlainKeywords := by
    intro o ho
    simp only [List.mem_cons, List.not_mem_nil, or_false] at ho
    obtain rfl | rfl | rfl := ho <;> exact ⟨by decide, by decide, by decide, by decide, by decide, by decide⟩
  have haddress : ∀ o ∈ [prickly, spelledOut 3306], o.PlainAddress := by
    intro o ho
    simp only [List.mem_cons, List.not_mem_nil, or_false] at ho
    obtain rfl | rfl := ho <;> exact ⟨by decide, by decide, by decide, by decide, by decide⟩
  refine ⟨⟨_, rfl, ?_⟩, ⟨_, rfl, ?_⟩, fun hsame => ?_⟩
  · have htold := (options_told_apart prickly (spelledOut 5432) _ _).1 (hkeywords _ (by simp))
      (hkeywords _ (by simp)) rfl rfl
    exact congrArg Except.ok (htold.mpr ⟨⟨rfl, rfl, rfl, rfl, rfl, rfl⟩, rfl⟩).symm
  · have htold := (options_told_apart prickly (spelledOut 3306) _ _).2 (haddress _ (by simp))
      (haddress _ (by simp)) rfl rfl
    exact congrArg Except.ok (htold.mpr ⟨rfl, rfl, rfl, rfl, rfl, rfl⟩).symm
  · have htold := (options_told_apart prickly (spelledOut 3306) _ _).1 (hkeywords _ (by simp))
      (hkeywords _ (by simp)) rfl rfl
    exact absurd (htold.mp (Except.ok.inj hsame)).1.port (by decide)

/-- Where to find a database of orders, and no further parameters. -/
def orders : ConnectionOptions :=
  { empty with host := "db.internal", user := "app", password := "secret", database := "orders" }

/-- A value that holds a parameter of its own is written as two parameters are. -/
theorem same_string_of_smuggled :
    (let o := orders.param "options" "-c search_path=audit"
      let o' := (orders.param "options" "-c").param "search_path" "audit"
      (∃ dsn, o.postgres = .ok dsn ∧ o'.postgres = .ok dsn) ∧ o.extra ≠ o'.extra) ∧
    (let o := orders.param "loc" "UTC&multiStatements=true"
      let o' := (orders.param "loc" "UTC").param "multiStatements" "true"
      (∃ dsn, o.mysql = .ok dsn ∧ o'.mysql = .ok dsn) ∧ o.extra ≠ o'.extra) :=
  ⟨⟨⟨_, rfl, rfl⟩, by decide⟩, ⟨_, rfl, rfl⟩, by decide⟩

end DbAccess.ConnectionOptions
