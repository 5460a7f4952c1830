import Runbook.Proofs.Psql.Replacing

/-!
# What a connection says about its database

The parts of a database stand in its connection one after the other, with a colon, an at sign or a
slash between them, and nothing marks such a character where it belongs to a part. So a connection
can be read in several ways. `Database.ofUri` reads it at the first of each of these characters, and
what it gives has the same connection again (`Database.uri_ofUri`). Two databases have the same
connection exactly if they are read as the same database (`Database.uri_eq_iff`), and the databases
that are read as themselves are those in which no part holds the character that ends it
(`Database.IsPlain`).
-/

namespace Runbook.Psql

/-! ### Texts cut at a character -/

/-- A text with another one behind a mark, if there is another one. -/
def joined (mark : Char) (front : List Char) : Option (List Char) → List Char
  | none => front
  | some behind => front ++ mark :: behind

/-- What stands before the first mark of a text, and what stands behind it if there is a mark. -/
def cut (mark : Char) (cs : List Char) : List Char × Option (List Char) :=
  (cs.takeWhile (· ≠ mark), (cs.dropWhile (· ≠ mark)).tail?)

section Cut

variable {mark c : Char} {cs front : List Char}

theorem joined_cons (mark c : Char) (front : List Char) (behind : Option (List Char)) :
    joined mark (c :: front) behind = c :: joined mark front behind := by
  cases behind <;> rfl

theorem cut_cons_self (mark : Char) (cs : List Char) : cut mark (mark :: cs) = ([], some cs) := by
  simp [cut]

theorem cut_cons_of_ne (h : c ≠ mark) (cs : List Char) :
    cut mark (c :: cs) = (c :: (cut mark cs).1, (cut mark cs).2) := by
  simp [cut, h]

/-- A text is cut where it was joined, if that is at its first mark. -/
theorem cut_joined (h : mark ∉ front) (behind : Option (List Char)) :
    cut mark (joined mark front behind) = (front, behind) := by
  induction front with
  | nil => cases behind with
    | none => rfl
    | some behind => exact cut_cons_self mark behind
  | cons c front ih =>
    obtain ⟨hc, hfront⟩ : mark ≠ c ∧ mark ∉ front := by simpa using h
    rw [joined_cons, cut_cons_of_ne (Ne.symm hc), ih hfront]

/-- No mark stands before the first one. -/
theorem not_mem_cut (mark : Char) (cs : List Char) : mark ∉ (cut mark cs).1 := by
  induction cs with
  | nil => exact List.not_mem_nil
  | cons c cs ih =>
    by_cases hc : c = mark
    · rw [hc, cut_cons_self]
      exact List.not_mem_nil
    · rw [cut_cons_of_ne hc, List.mem_cons, not_or]
      exact ⟨Ne.symm hc, ih⟩

/-- What was cut can be joined again. -/
theorem joined_cut (mark : Char) (cs : List Char) :
    joined mark (cut mark cs).1 (cut mark cs).2 = cs := by
  induction cs with
  | nil => rfl
  | cons c cs ih =>
    by_cases hc : c = mark
    · rw [hc, cut_cons_self]
      rfl
    · rw [cut_cons_of_ne hc, joined_cons, ih]

/-- The first mark of a text with a mark in its front stands there, so the rest is kept whole. -/
theorem exists_cut_append (h : mark ∈ cs) (rest : List Char) :
    ∃ more, (cut mark (cs ++ rest)).2 = some (more ++ rest) := by
  induction cs with
  | nil => cases h
  | cons c cs ih =>
    by_cases hc : c = mark
    · exact ⟨cs, by rw [hc, List.cons_append, cut_cons_self]⟩
    · obtain ⟨more, hmore⟩ := ih ((List.mem_cons.mp h).resolve_left (Ne.symm hc))
      exact ⟨more, by rw [List.cons_append, cut_cons_of_ne hc, hmore]⟩

/-- What stands behind a mark stands, whole, behind the first one. -/
theorem exists_cut_mark (mark : Char) (front rest : List Char) :
    ∃ more, (cut mark (front ++ mark :: rest)).2 = some (more ++ rest) := by
  have hmark : mark ∈ front ++ [mark] := List.mem_append_right front List.mem_cons_self
  obtain ⟨more, hmore⟩ := exists_cut_append hmark rest
  exact ⟨more, by rw [← hmore, List.append_assoc, List.singleton_append]⟩

/-- A character that a text does not hold is in neither part of it. -/
theorem not_mem_of_cut (h : c ∉ cs) :
    c ∉ (cut mark cs).1 ∧ ∀ behind ∈ (cut mark cs).2, c ∉ behind := by
  rw [← joined_cut mark cs] at h
  cases hbehind : (cut mark cs).2 with
  | none =>
    rw [hbehind] at h
    exact ⟨h, by simp⟩
  | some behind =>
    rw [hbehind, joined, List.mem_append, List.mem_cons, not_or, not_or] at h
    exact ⟨h.1, fun _ hsome => Option.mem_some.mp hsome ▸ h.2.2⟩

end Cut

namespace Database

/-! ### Connections as texts -/

/-- The beginning of every connection. -/
def scheme : String := "postgresql://"

/-- The characters of a connection behind its beginning. -/
def spelled (user : List Char) (password : Option (List Char)) (host : List Char)
    (port : Option (List Char)) (name : List Char) : List Char :=
  joined '@' (joined ':' user password) (some (joined '/' (joined ':' host port) (some name)))

/-- Reads a connection. The first at sign ends the credentials and the first slash behind it the
host with its port; in either of them the first colon stands before what may be left out. -/
def ofUri (uri : String) : Database :=
  let credentials := cut '@' (uri.toList.drop scheme.length)
  let address := cut '/' (credentials.2.getD [])
  let user := cut ':' credentials.1
  let host := cut ':' address.1
  ⟨address.2.map String.ofList, some (String.ofList user.1), user.2.map String.ofList,
    some (String.ofList host.1), host.2.map String.ofList⟩

/-- The database as which the connection is read; without a connection it is the database itself. -/
def asRead (d : Database) : Database :=
  match d.uri with
  | .ok uri => ofUri uri
  | .error _ => d

/-- No part holds a character at which the connection is cut before the part ends. -/
structure IsPlain (d : Database) : Prop where
  user : ∀ s ∈ d.user, ':' ∉ s.toList ∧ '@' ∉ s.toList
  password : ∀ s ∈ d.password, '@' ∉ s.toList
  host : ∀ s ∈ d.host, ':' ∉ s.toList ∧ '/' ∉ s.toList
  port : ∀ s ∈ d.port, '/' ∉ s.toList

/-- The connection of a database that has one. -/
theorem uri_mk (name user host : String) (password port : Option String) :
    uri ⟨some name, some user, password, some host, port⟩ =
      .ok (String.ofList (scheme.toList ++ spelled user.toList (password.map String.toList)
        host.toList (port.map String.toList) name.toList)) := by
  have hcolon : ":".toList = [':'] := rfl
  have hat : "@".toList = ['@'] := rfl
  have hslash : "/".toList = ['/'] := rfl
  have hempty : "".toList = [] := rfl
  simp only [uri, required, require, bind, Except.bind, pure, Except.pure, Except.ok.injEq]
  rw [← String.toList_inj, String.toList_ofList]
  cases password <;> cases port <;>
    simp only [scheme, spelled, joined, String.toList_append, hcolon, hat, hslash, hempty,
      Option.map_none, Option.map_some, List.append_assoc, List.cons_append, List.nil_append,
      List.append_nil]

variable {name user host : List Char} {password port : Option (List Char)}

theorem ofUri_scheme (cs : List Char) :
    ofUri (String.ofList (scheme.toList ++ cs)) =
      ⟨(cut '/' ((cut '@' cs).2.getD [])).2.map String.ofList,
        some (String.ofList (cut ':' (cut '@' cs).1).1),
        (cut ':' (cut '@' cs).1).2.map String.ofList,
        some (String.ofList (cut ':' (cut '/' ((cut '@' cs).2.getD [])).1).1),
        (cut ':' (cut '/' ((cut '@' cs).2.getD [])).1).2.map String.ofList⟩ := by
  have hdrop : (String.ofList (scheme.toList ++ cs)).toList.drop scheme.length = cs := by
    rw [String.toList_ofList, ← String.length_toList, List.drop_left]
  rw [ofUri, hdrop]

/-- In every connection there is an at sign, and a slash behind the first one. -/
theorem exists_cut_spelled (user : List Char) (password : Option (List Char)) (host : List Char)
    (port : Option (List Char)) (name : List Char) :
    ∃ address last, (cut '@' (spelled user password host port name)).2 = some address ∧
      (cut '/' address).2 = some last := by
  obtain ⟨more, hmore⟩ := exists_cut_mark '@' (joined ':' user password)
    (joined ':' host port ++ '/' :: name)
  obtain ⟨most, hmost⟩ := exists_cut_mark '/' (more ++ joined ':' host port) name
  rw [List.append_assoc] at hmost
  exact ⟨_, _, hmore, hmost⟩

/-- What a connection is read as has this connection, and is plain. -/
theorem uri_ofUri (user : List Char) (password : Option (List Char)) (host : List Char)
    (port : Option (List Char)) (name : List Char) :
    (ofUri (String.ofList (scheme.toList ++ spelled user password host port name))).uri =
        .ok (String.ofList (scheme.toList ++ spelled user password host port name)) ∧
      (ofUri (String.ofList (scheme.toList ++ spelled user password host port name))).IsPlain := by
  obtain ⟨address, last, haddress, hlast⟩ := exists_cut_spelled user password host port name
  generalize spelled user password host port name = cs at haddress
  have hat := not_mem_cut '@' cs
  have hslash := not_mem_cut '/' address
  rw [ofUri_scheme, haddress, Option.getD_some, hlast, Option.map_some]
  constructor
  · have hlists (t : Option (List Char)) : (t.map String.ofList).map String.toList = t := by
      cases t <;> simp
    rw [uri_mk]
    simp only [String.toList_ofList, hlists, spelled, joined_cut]
    rw [← hlast, joined_cut, ← haddress, joined_cut]
  · refine ⟨?_, ?_, ?_, ?_⟩
    · simpa using ⟨not_mem_cut ':' _, (not_mem_of_cut hat).1⟩
    · simpa using (not_mem_of_cut hat).2
    · simpa using ⟨not_mem_cut ':' _, (not_mem_of_cut hslash).1⟩
    · simpa using (not_mem_of_cut hslash).2

/-! ### Databases of one connection -/

variable {a b d : Database}

theorem asRead_of_uri {text : String} (h : d.uri = .ok text) : d.asRead = ofUri text := by
  rw [asRead, h]

theorem CanConnect.uri_eq_spelled (h : d.CanConnect) :
    ∃ user password host port name, d.uri =
      .ok (String.ofList (scheme.toList ++ spelled user password host port name)) := by
  obtain ⟨name, user, host, hd⟩ := h.exists_eq
  rw [hd]
  exact ⟨_, _, _, _, _, uri_mk name user host d.password d.port⟩

/-- A database is read as one that has the same connection, and is plain. -/
theorem CanConnect.uri_asRead (h : d.CanConnect) : d.asRead.uri = d.uri ∧ d.asRead.IsPlain := by
  obtain ⟨user, password, host, port, name, huri⟩ := h.uri_eq_spelled
  rw [asRead_of_uri huri, huri]
  exact uri_ofUri user password host port name

theorem IsPlain.asRead_eq (hplain : d.IsPlain) (h : d.CanConnect) : d.asRead = d := by
  obtain ⟨name, user, host, hd⟩ := h.exists_eq
  obtain ⟨_, _, password, _, port⟩ := d
  cases hd
  obtain ⟨huser, hpassword, hhost, hport⟩ := hplain
  have hcredentials : '@' ∉ joined ':' user.toList (password.map String.toList) := by
    cases password with
    | none => exact (huser user rfl).2
    | some password =>
      simpa [joined] using ⟨(huser user rfl).2, hpassword password rfl⟩
  have haddress : '/' ∉ joined ':' host.toList (port.map String.toList) := by
    cases port with
    | none => exact (hhost host rfl).2
    | some port => simpa [joined] using ⟨(hhost host rfl).2, hport port rfl⟩
  have hstrings (t : Option String) : (t.map String.toList).map String.ofList = t := by
    cases t <;> simp
  rw [asRead_of_uri (uri_mk ..), ofUri_scheme, spelled, cut_joined hcredentials, Option.getD_some,
    cut_joined haddress, cut_joined (huser user rfl).1, cut_joined (hhost host rfl).1]
  simp only [Option.map_some, String.ofList_toList, hstrings]

theorem CanConnect.asRead_eq_iff (h : d.CanConnect) : d.asRead = d ↔ d.IsPlain :=
  ⟨fun hread => hread ▸ h.uri_asRead.2, fun hplain => hplain.asRead_eq h⟩

theorem CanConnect.uri_eq_iff_asRead (ha : a.CanConnect) (hb : b.CanConnect) :
    a.uri = b.uri ↔ a.asRead = b.asRead := by
  constructor
  · intro huri
    obtain ⟨text, htext⟩ := hb.uri_eq
    rw [asRead_of_uri (huri.trans htext), asRead_of_uri htext]
  · intro hread
    rw [← ha.uri_asRead.1, hread, hb.uri_asRead.1]

/-- The source is taken for the target if both are read as the same database. -/
theorem dumpsItself_eq (ha : a.CanConnect) (hb : b.CanConnect) :
    Replacement.dumpsItself a b = .ok (a.asRead == b.asRead) := by
  obtain ⟨s, hs⟩ := ha.uri_eq
  obtain ⟨t, ht⟩ := hb.uri_eq
  have hsame : s = t ↔ a.asRead = b.asRead := by
    rw [← ha.uri_eq_iff_asRead hb, hs, ht, Except.ok.injEq]
  have hverdict : (s == t) = (a.asRead == b.asRead) := by
    rw [Bool.eq_iff_iff, beq_iff_eq, beq_iff_eq, hsame]
  simp [Replacement.dumpsItself, hs, ht, ← hverdict, bind, Except.bind, pure, Except.pure]

/-- **Two databases have the same connection exactly if they are read as the same database.** What a
database is read as has its connection too, so the connection tells a database from all others only
if the database is plain, and plain databases are told apart by it. A replacement takes its source
for the target exactly if they have the same connection. -/
theorem uri_eq_iff (ha : a.CanConnect) (hb : b.CanConnect) :
    (∃ uri, a.uri = .ok uri) ∧
    (a.uri = b.uri ↔ a.asRead = b.asRead) ∧
    (a.asRead.uri = a.uri ∧ a.asRead.IsPlain ∧ (a.asRead = a ↔ a.IsPlain)) ∧
    (a.IsPlain → b.IsPlain → (a.uri = b.uri ↔ a = b)) ∧
    ∃ verdict, Replacement.dumpsItself a b = .ok verdict ∧ (verdict = true ↔ a.asRead = b.asRead) ∧
      (a = b → verdict = true) ∧ (a.IsPlain → b.IsPlain → (verdict = true ↔ a = b)) := by
  have hread (hplain : a.IsPlain) (hplain' : b.IsPlain) : a.asRead = b.asRead ↔ a = b := by
    rw [hplain.asRead_eq ha, hplain'.asRead_eq hb]
  refine ⟨ha.uri_eq, ha.uri_eq_iff_asRead hb, ⟨ha.uri_asRead.1, ha.uri_asRead.2, ha.asRead_eq_iff⟩,
    fun hplain hplain' => (ha.uri_eq_iff_asRead hb).trans (hread hplain hplain'),
    _, dumpsItself_eq ha hb, beq_iff_eq, ?_, fun hplain hplain' => ?_⟩
  · rintro rfl
    exact beq_self_eq_true _
  · rw [beq_iff_eq]
    exact hread hplain hplain'

/-- The sample on another port. -/
def sampleMoved : Database := { sample with port := some "5433" }

theorem isPlain_sample : sample.IsPlain where
  user := by rintro _ ⟨⟩; decide
  password := by rintro _ ⟨⟩; decide
  host := by rintro _ ⟨⟩; decide
  port := nofun

theorem isPlain_sampleMoved : sampleMoved.IsPlain where
  user := isPlain_sample.user
  password := isPlain_sample.password
  host := isPlain_sample.host
  port := by rintro _ ⟨⟩; decide

/-- Both are plain, and so their connections differ. -/
theorem uri_eq_iff_sampleMoved :
    sample.CanConnect ∧ sampleMoved.CanConnect ∧ sample.IsPlain ∧ sampleMoved.IsPlain ∧
      sample.uri ≠ sampleMoved.uri ∧ Replacement.dumpsItself sample sampleMoved = .ok false := by
  have hsample : sample.CanConnect := ⟨rfl, rfl, rfl⟩
  have hmoved : sampleMoved.CanConnect := ⟨rfl, rfl, rfl⟩
  have hne : sample ≠ sampleMoved := by decide
  obtain ⟨-, -, -, huri, verdict, hverdict, -, -, hsame⟩ := uri_eq_iff hsample hmoved
  have hfalse : verdict = false := by
    rw [← Bool.not_eq_true, hsame isPlain_sample isPlain_sampleMoved]
    exact hne
  refine ⟨hsample, hmoved, isPlain_sample, isPlain_sampleMoved, ?_, hfalse ▸ hverdict⟩
  rw [Ne, huri isPlain_sample isPlain_sampleMoved]
  exact hne

/-- A user whose name holds a colon, without a password. -/
def colonUser : Database := ⟨some "app", some "ann:x", none, some "db", none⟩

/-- What stands behind the colon, as the password of a user. -/
def colonPassword : Database := ⟨some "app", some "ann", some "x", some "db", none⟩

/-- The two differ in user and password and have one connection, and a replacement of one of them by
the other is taken for a replacement by itself. -/
theorem uri_shared :
    colonUser.CanConnect ∧ colonPassword.CanConnect ∧ colonUser ≠ colonPassword ∧
      colonUser.uri = .ok "postgresql://ann:x@db/app" ∧
      colonPassword.uri = .ok "postgresql://ann:x@db/app" ∧
      Replacement.dumpsItself colonUser colonPassword = .ok true :=
  ⟨⟨rfl, rfl, rfl⟩, ⟨rfl, rfl, rfl⟩, by decide, rfl, rfl, rfl⟩

end Database

end Runbook.Psql
