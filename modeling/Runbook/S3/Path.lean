import Runbook.Definition.Fields
import Runbook.Shell.Quoting

/-!
# Paths in S3

A place in a bucket, and the batches that copy it to a local path.
-/

namespace Runbook.S3

/-- A place in a bucket. -/
structure Path where
  bucket : String
  region : Option String
  path : String
  isDirectory : Bool
  excluded : Option String
  included : Option String
deriving DecidableEq, Repr

namespace Path

/-- A file in a bucket. -/
def file (bucket path : String) : Path := ⟨bucket, none, path, false, none, none⟩

/-- A sample of a file. -/
def sampleFile : Path := file "bucket_name" "path_to_file/file"

/-- A sample of a directory. -/
def sampleDirectory : Path :=
  { file "bucket_name" "path_to_dir/dir" with isDirectory := true }

/-- Reads the definition: bucket, region, path, whether it is a directory, and the patterns of
what to leave out and what to take. -/
def ofValue (scope : Scope) (v : Value) : Except DefinitionError Path := do
  let fields := Fields.ofValue scope "aws_s3_path" v
  let bucket ← fields.text 0 "s3_bucket"
  let region ← fields.text? 1 "s3_region"
  let path ← fields.text 2 "s3_path"
  let excluded ← fields.text? 4 "s3_exclude_pattern"
  let included ← fields.text? 5 "s3_include_pattern"
  return ⟨bucket, region, path, fields.flag 3, excluded, included⟩

/-- The definition. -/
def toValue (p : Path) : Value :=
  .list [.str p.bucket, .ofText? p.region, .str p.path, .bool p.isDirectory,
    .ofText? p.excluded, .ofText? p.included]

/-- The URL. -/
def url (p : Path) : String := "s3://" ++ p.bucket ++ "/" ++ p.path

open Shell (quote) in
/-- Copies to a local path. -/
def fetch (p : Path) (localPath : String) : Batch :=
  let base := (Command.new "aws s3").arg? (p.region.map ("--region " ++ ·))
  let copy := (((base.arg "cp").arg p.url).arg localPath).arg
    (if p.isDirectory then "--recursive" else "")
  [(copy.arg? (p.excluded.map fun s => "--exclude " ++ quote s)).arg?
    (p.included.map fun s => "--include " ++ quote s)]

/-- Copies to a local path, which is listed before and after and made first if it is to be a
directory. -/
def fetchListed (p : Path) (localPath : String) (toDirectory : Bool) : Batch :=
  let listing := (Command.new "ls").addArgs ["-lh", localPath]
  (if toDirectory then [(Command.new "mkdir").addArgs ["-p", localPath]] else []) ++
    listing :: p.fetch localPath ++ [listing]

end Path

end Runbook.S3
