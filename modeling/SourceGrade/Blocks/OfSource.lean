import SourceGrade.Blocks.Braces
import SourceGrade.Blocks.Keywords
/-!
# The block map of a source unit

The language decides how blocks are found. Only braces can fail.
-/

namespace SourceGrade.BlockMap

def ofSource (source : Source) : Except BlockError BlockMap :=
  match source.language.blockStyle with
  | .braces => (Braces.lineBlocks source).map .mk
  | .indentation => .ok ⟨Indentation.lineBlocks source⟩
  | .keywords => .ok ⟨Keywords.lineBlocks source⟩

end SourceGrade.BlockMap
