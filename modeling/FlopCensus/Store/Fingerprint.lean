import FlopCensus.Digest.MD5
import FlopCensus.Files.Basic
import FlopCensus.Log

set_option autoImplicit false
set_option relaxedAutoImplicit false

/-!
# Fingerprints of files

The fingerprint of a file is a digest of its content; a file that cannot be read has the empty text
as its fingerprint.

## Main definitions

* `FlopCensus.Store.fingerprintWith`: the fingerprint, given a digest function.
* `FlopCensus.Store.fingerprint`: the fingerprint with the usual digest.
-/

namespace FlopCensus.Store

/-- The fingerprint of the file at a path, given a digest function. Only a path that no file can
have is an error. -/
def fingerprintWith (digest : List UInt8 → String) (fs : FileSystem) (path : String) :
    Logged (Except Files.Error String) :=
  match fs.read path with
  | .ok content => return .ok (digest content)
  | .error ⟨.nullByte, _⟩ => return .error ⟨.nullByte, path⟩
  -- a file that cannot be read is compared as well: it is the same as long as it stays so
  | .error e => do
    Logged.tell .warning .store ("Failed to hash file " ++ path ++ ": " ++ e.message)
    return .ok ""

/-- The fingerprint of the file at a path. -/
def fingerprint (fs : FileSystem) (path : String) : Logged (Except Files.Error String) :=
  fingerprintWith Digest.md5Hex fs path

end FlopCensus.Store
