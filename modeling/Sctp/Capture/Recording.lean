import Sctp.Capture.FileTree
import Sctp.Capture.Reader

/-! What a file recorded, as a reader finds it. -/
namespace Sctp.Capture

/-- The format of a file, its blocks as far as they can be read, and how that ended. -/
structure Recording where
  isPcapng : Bool
  blocks : List Block
  ending : Except ReadError Unit

namespace Recording

/-- A file that starts with a section header is read as sections of blocks, any other as a header with
records; of the latter the header is the first block, with the link type. -/
def ofFile (reader : Reader) (file : Bytes) : Except FormatError Recording :=
  let window := Window.ofFile file
  if reader.startsSection window.buffered then
    let read := reader.read (reader.start reader.sections window)
    .ok ⟨true, read.1, read.2⟩
  else
    match Pcap.header window.buffered with
    | .error fault => .error fault
    | .ok (layout, network, records) =>
      let read := reader.read (reader.start (reader.records layout) { window with buffered := records })
      .ok ⟨false, .linkType network :: read.1, read.2⟩

def ofNode (reader : Reader) : Node → Except FormatError Recording
  | .directory => .error .unreadable
  | .file octets => ofFile reader octets

end Recording

end Sctp.Capture
