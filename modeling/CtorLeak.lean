import CtorLeak.AccessFlags
import CtorLeak.Bytes.BigEndian
import CtorLeak.Bytes.Forward
import CtorLeak.Bytes.Reader
import CtorLeak.Bytes.Writer
import CtorLeak.Check
import CtorLeak.ClassFile.Attribute
import CtorLeak.ClassFile.Basic
import CtorLeak.ClassFile.Member
import CtorLeak.ClassFile.Writer
import CtorLeak.Cli.Arguments
import CtorLeak.Cli.FileTree
import CtorLeak.Cli.Report
import CtorLeak.Cli.Run
import CtorLeak.Cli.Styled
import CtorLeak.Constant.Basic
import CtorLeak.Constant.Pool
import CtorLeak.Constant.Resolve
import CtorLeak.Descriptor.Basic
import CtorLeak.Descriptor.Parser
import CtorLeak.Error
import CtorLeak.Escape.Effect
import CtorLeak.Escape.Finding
import CtorLeak.Escape.Log
import CtorLeak.Escape.Scan
import CtorLeak.Escape.Site
import CtorLeak.Instruction.Basic
import CtorLeak.Instruction.Decode
import CtorLeak.Name
import CtorLeak.Text.ModifiedUtf8
import CtorLeak.Text.Quoted
import CtorLeak.Text.Utf16
import CtorLeak.Text.Visible
import CtorLeak.Proofs.Escape.Findings
import CtorLeak.Proofs.Bytes.Format
import CtorLeak.Proofs.Instruction.Decoding
import CtorLeak.Proofs.Text.ModifiedUtf8
import CtorLeak.Proofs.Constant.Pool
import CtorLeak.Proofs.ClassFile.RoundTrip
import CtorLeak.Proofs.Check
import CtorLeak.Proofs.Bytes.Framing
import CtorLeak.Proofs.ClassFile.Framing
import CtorLeak.Proofs.Descriptor.Grammar
import CtorLeak.Proofs.Instruction.Truncation
import CtorLeak.Proofs.Instruction.Relocation
import CtorLeak.Proofs.Constant.Layout
import CtorLeak.Proofs.Escape.Arguments
import CtorLeak.Proofs.Escape.Context
import CtorLeak.Proofs.Cli.Report
import CtorLeak.Proofs.Escape.DynamicCalls
import CtorLeak.Proofs.Text.Language
import CtorLeak.Proofs.Text.Shortest
import CtorLeak.Proofs.Bytes.Refusal
import CtorLeak.Proofs.Instruction.Faults
import CtorLeak.Proofs.Escape.Bounds
import CtorLeak.Proofs.Descriptor.Truncation
import CtorLeak.Proofs.ClassFile.Shape
import CtorLeak.Proofs.ClassFile.Draining
import CtorLeak.Proofs.Text.PlainUtf8
import CtorLeak.Proofs.Constant.Links
import CtorLeak.Proofs.Constant.Resolution
import CtorLeak.Proofs.Constant.Growth
import CtorLeak.Proofs.Constant.Corruption
import CtorLeak.Proofs.Name
import CtorLeak.Proofs.Descriptor.Parameters
import CtorLeak.Proofs.ClassFile.Body
import CtorLeak.Proofs.Escape.Cursor
import CtorLeak.Proofs.Instruction.SwitchTables
