import MembershipGrid.Embedding
import MembershipGrid.Log
import MembershipGrid.Job.Basic

/-!
# The embedding job

The bytes of a file are written as source text. The file is read before the name is checked.
-/

namespace MembershipGrid.Job

def embed (l : Logger) (input output symbol : String) : Job Unit := do
  l.info s!"embed: input={input} output={output} symbol={symbol}"
  let bytes ← readBytes input
  match Embedding.arrayDefinition? symbol bytes with
  | none => throw (.ofCause (.identifier symbol))
  | some text =>
    writeText output text
    l.info s!"embedded {bytes.length} bytes"

end MembershipGrid.Job
