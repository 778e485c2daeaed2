import Munch.Text.Characters
import Munch.Text.Lines
import Munch.Text.Quoted
import Munch.Token
import Munch.Token.Dump
import Munch.Token.Json
import Munch.Log
import Munch.Token.Stream
import Munch.Scanner.Request
import Munch.Repl
import Munch.Demo
import Munch.Pattern.Basic
import Munch.Pattern.Flaw
import Munch.Pattern.Size
import Munch.Pattern.Reader
import Munch.Pattern.Parser
import Munch.Command.Arguments
import Munch.Command.Tree
import Munch.Command.Settings
import Munch.Command.Run
import Munch.Main
import Munch.Proofs.Grammar
import Munch.Proofs.Run
import Munch.Proofs.Account
import Munch.Proofs.Cursor
import Munch.Proofs.Pending
import Munch.Proofs.Locality
import Munch.Proofs.Progress
import Munch.Proofs.Transcript
import Munch.Proofs.Layout
import Munch.Proofs.Strays
import Munch.Proofs.Respelled
import Munch.Proofs.Lines
import Munch.Proofs.Session
import Munch.Proofs.Reading
import Munch.Proofs.Flags
import Munch.Proofs.Logging
import Munch.Proofs.QuotedText
import Munch.Proofs.JsonText
import Munch.Proofs.JsonStream
import Munch.Proofs.Terminal
