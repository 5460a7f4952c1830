import Runbook.Proofs.Shell.Literal
import Runbook.S3.Path

/-!
# The command lines that fetch a path

A bucket, a region, a path and the local path stand in the line as they are, and only the patterns
of what to leave out and what to take are quoted. So the line has the words it is made of exactly if
the parts that are not quoted are words by themselves (`Path.fetch_lines_read_iff`). A local path
that is empty is left out of the line, and the next word stands in its place.
-/

namespace Runbook.S3

open Shell (quote IsWord Line Scan Spells)

namespace Path

variable (p : Path) (localPath : String)

/-! ### Words -/

/-- The words up to the local path. -/
def copyWords : List String :=
  ["aws", "s3"] ++ Line.option "--region" p.region ++ ["cp", p.url, localPath]

/-- The words behind it. -/
def filterWords : List String :=
  (if p.isDirectory then ["--recursive"] else []) ++ Line.option "--exclude" p.excluded ++
    Line.option "--include" p.included

/-- The words of the command that copies to a local path. -/
def fetchWords : List String := p.copyWords localPath ++ p.filterWords

/-- What is not quoted needs no quotes. -/
structure IsLiteral : Prop where
  bucket : ∀ c ∈ p.bucket.toList, Scan.isPlain c = true
  region : ∀ region, p.region = some region → IsWord region
  path : ∀ c ∈ p.path.toList, Scan.isPlain c = true
  localPath : IsWord localPath

theorem isWord_url_iff : IsWord p.url ↔
    (∀ c ∈ p.bucket.toList, Scan.isPlain c = true) ∧
      ∀ c ∈ p.path.toList, Scan.isPlain c = true := by
  have hscheme : ∀ c ∈ "s3://".toList, Scan.isPlain c = true := List.all_eq_true.mp (by decide)
  have hslash : ∀ c ∈ "/".toList, Scan.isPlain c = true := List.all_eq_true.mp (by decide)
  have hne : p.url ≠ "" := by simp [url, ← String.toList_inj]
  rw [IsWord, and_iff_right hne, url, String.toList_append, String.toList_append,
    String.toList_append, List.forall_mem_append, List.forall_mem_append, List.forall_mem_append,
    and_iff_right hscheme, and_iff_left hslash]

theorem isLiteral_iff : p.IsLiteral localPath ↔ ∀ w ∈ p.copyWords localPath, IsWord w := by
  have haws : ∀ w ∈ ["aws", "s3"], IsWord w := by decide
  have hcp : IsWord "cp" := by decide
  have hregion : (∀ w ∈ Line.option "--region" p.region, IsWord w) ↔
      ∀ region, p.region = some region → IsWord region := by
    have hname : IsWord "--region" := by decide
    cases p.region <;> simp [Line.option, hname]
  rw [copyWords, List.forall_mem_append, List.forall_mem_append, and_iff_right haws, hregion,
    List.forall_mem_cons, and_iff_right hcp, List.forall_mem_cons, isWord_url_iff,
    List.forall_mem_singleton]
  constructor
  · rintro ⟨hbucket, hregion, hpath, hlocal⟩
    exact ⟨hregion, ⟨hbucket, hpath⟩, hlocal⟩
  · rintro ⟨hregion, ⟨hbucket, hpath⟩, hlocal⟩
    exact ⟨hbucket, hregion, hpath, hlocal⟩

/-! ### Texts -/

/-- The texts up to the local path. -/
def copyTexts : List String :=
  ["aws", "s3"] ++ Line.option "--region" p.region ++ ["cp", p.url] ++ Line.argument localPath

/-- The texts behind it. -/
def filterTexts : List String :=
  (if p.isDirectory then ["--recursive"] else []) ++
    Line.option "--exclude" (p.excluded.map quote) ++
    Line.option "--include" (p.included.map quote)

theorem spells_option {name : String} (hname : IsWord name) (value : Option String) :
    List.Forall₂ Spells (Line.option name (value.map quote)) (Line.option name value) := by
  cases value with
  | none => exact .nil
  | some value => exact .cons (.plain hname) (.cons (.quoted value) .nil)

theorem spells_filterTexts : List.Forall₂ Spells p.filterTexts p.filterWords := by
  have hexclude : IsWord "--exclude" := by decide
  have hinclude : IsWord "--include" := by decide
  have hrecursive : IsWord "--recursive" := by decide
  refine List.rel_append (List.rel_append ?_ (spells_option hexclude p.excluded))
    (spells_option hinclude p.included)
  split_ifs
  · exact .cons (.plain hrecursive) .nil
  · exact .nil

theorem toList_intercalate_texts :
    (" ".intercalate (p.copyTexts localPath ++ p.filterTexts)).toList =
      "aws s3".toList ++ Line.trail (Line.option "--region" p.region) ++ Line.trail ["cp"] ++
        Line.trail [p.url] ++ Line.trail (Line.argument localPath) ++
        Line.trail (if p.isDirectory then ["--recursive"] else []) ++
        Line.trail (Line.option "--exclude" (p.excluded.map quote)) ++
        Line.trail (Line.option "--include" (p.included.map quote)) := by
  have hcall : "aws s3" = " ".intercalate ["aws", "s3"] := by decide
  have hcopy : ["cp", p.url] = ["cp"] ++ [p.url] := rfl
  rw [copyTexts, filterTexts, hcopy, List.append_assoc, List.append_assoc, List.append_assoc,
    Line.toList_intercalate_append (List.cons_ne_nil "aws" ["s3"]), hcall]
  simp only [Line.trail_append, List.append_assoc]

theorem render_fetch : (p.fetch localPath).render =
    [" ".intercalate (p.copyTexts localPath ++ p.filterTexts)] := by
  have hurl : p.url ≠ "" := by simp [url]
  have hcp : "cp" ≠ "" := by decide
  have hrecursive : Line.argument (if p.isDirectory then "--recursive" else "") =
      if p.isDirectory then ["--recursive"] else [] := by
    cases p.isDirectory <;> rfl
  -- a pattern is quoted before it is put behind the name of its option
  have hquoted : ∀ (name : String) (pattern : Option String),
      (pattern.map fun s => name ++ " " ++ quote s) =
        (pattern.map quote).map ((name ++ " ") ++ ·) := by
    intro name pattern
    rw [Option.map_map]
    rfl
  show [Command.render _] = _
  rw [List.singleton_inj, ← String.toList_inj, toList_intercalate_texts,
    show "--exclude " = "--exclude" ++ " " from rfl, hquoted,
    show "--include " = "--include" ++ " " from rfl, hquoted,
    show "--region " = "--region" ++ " " from rfl]
  simp only [Line.toList_render_arg?_option, Line.toList_render_arg, hrecursive,
    Line.argument_eq hurl, Line.argument_eq hcp]
  rfl

/-! ### Lines -/

/-- The line of a command on a path reads as it should exactly if the path is a word. -/
theorem read_onPath_iff {call flag : String} (hcall : IsWord call) (hflag : IsWord flag) :
    Line.read ((Command.new call).addArgs [flag, localPath]).render =
      some ⟨[call, flag, localPath], []⟩ ↔ IsWord localPath := by
  have hrender : ((Command.new call).addArgs [flag, localPath]).render =
      " ".intercalate ([call, flag] ++ Line.argument localPath ++ []) := by
    rw [← String.toList_inj, List.append_nil,
      Line.toList_intercalate_append (List.cons_ne_nil call [flag])]
    show ((Command.arg _ flag).arg localPath).render.toList = _
    rw [Line.toList_render_arg, Line.toList_render_arg, Line.argument_eq hflag.1,
      Line.toList_intercalate_cons]
    simp [Command.render, Command.new]
  have hread := Line.read_argument_iff localPath (List.cons_ne_nil call [flag]) .nil
  rw [← hrender] at hread
  rw [show [call, flag, localPath] = [call, flag] ++ [localPath] ++ [] from rfl, hread]
  simp [hcall, hflag]

/-- The line that fetches a path has the words it is made of exactly if all that is not quoted is
literal. -/
theorem read_fetch_iff :
    (p.fetch localPath).render.map Line.read = [some ⟨p.fetchWords localPath, []⟩] ↔
      p.IsLiteral localPath := by
  have hwords : p.copyWords localPath =
      ["aws", "s3"] ++ Line.option "--region" p.region ++ ["cp", p.url] ++ [localPath] := by
    simp [copyWords]
  rw [render_fetch, List.map_singleton, List.singleton_inj, fetchWords, isLiteral_iff, hwords]
  exact Line.read_argument_iff localPath (by simp) p.spells_filterTexts

/-- The lines before and behind it are right exactly if the local path is a word. -/
theorem read_fetchListed_iff (toDirectory : Bool) :
    (p.fetchListed localPath toDirectory).render.map Line.read =
      (if toDirectory then [some ⟨["mkdir", "-p", localPath], []⟩] else []) ++
        some ⟨["ls", "-lh", localPath], []⟩ :: (p.fetch localPath).render.map Line.read ++
        [some ⟨["ls", "-lh", localPath], []⟩] ↔
      IsWord localPath := by
  have hls : Line.read ((Command.new "ls").addArgs ["-lh", localPath]).render =
      some ⟨["ls", "-lh", localPath], []⟩ ↔ IsWord localPath :=
    read_onPath_iff localPath (by decide) (by decide)
  have hmkdir : Line.read ((Command.new "mkdir").addArgs ["-p", localPath]).render =
      some ⟨["mkdir", "-p", localPath], []⟩ ↔ IsWord localPath :=
    read_onPath_iff localPath (by decide) (by decide)
  cases toDirectory with
  | false => simp [fetchListed, Batch.render, hls]
  | true => simp [fetchListed, Batch.render, hls, hmkdir]

/-- **Every part of a path keeps its own word exactly if what is not quoted is literal.** The
patterns are quoted and may be any texts; of the lines around the one that fetches, only the local
path matters. -/
theorem fetch_lines_read_iff :
    ((p.fetch localPath).render.map Line.read = [some ⟨p.fetchWords localPath, []⟩] ↔
      p.IsLiteral localPath) ∧
    ∀ toDirectory : Bool,
      ((p.fetchListed localPath toDirectory).render.map Line.read =
        (if toDirectory then [some ⟨["mkdir", "-p", localPath], []⟩] else []) ++
          some ⟨["ls", "-lh", localPath], []⟩ :: (p.fetch localPath).render.map Line.read ++
          [some ⟨["ls", "-lh", localPath], []⟩] ↔
        IsWord localPath) :=
  ⟨p.read_fetch_iff localPath, p.read_fetchListed_iff localPath⟩

example : (sampleFile.fetch "/tmp/x").render.map Line.read =
    [some ⟨["aws", "s3", "cp", "s3://bucket_name/path_to_file/file", "/tmp/x"], []⟩] := by decide

/-- A blank in the path makes two words of the URL, and where the local path is empty the words
behind it stand in its place. -/
theorem fetch_words_apart :
    ((file "b" "my file").fetch "x").render.map Line.read =
      [some ⟨["aws", "s3", "cp", "s3://b/my", "file", "x"], []⟩] ∧
    ((file "b" "my file").fetch "x").render.map Line.read ≠
      [some ⟨["aws", "s3", "cp", "s3://b/my file", "x"], []⟩] ∧
    (sampleDirectory.fetch "").render.map Line.read =
      [some ⟨["aws", "s3", "cp", "s3://bucket_name/path_to_dir/dir", "--recursive"], []⟩] ∧
    (sampleDirectory.fetch "").render.map Line.read ≠
      [some ⟨["aws", "s3", "cp", "s3://bucket_name/path_to_dir/dir", "", "--recursive"], []⟩] := by
  decide

end Path

end Runbook.S3
