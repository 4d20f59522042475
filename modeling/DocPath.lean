import DocPath.CommandLine
import DocPath.Main
import DocPath.Proofs.Arena.Navigation
import DocPath.Proofs.CommandLine.Default
import DocPath.Proofs.Flat.Reorder
import DocPath.Proofs.Flat.Roundtrip
import DocPath.Proofs.Formula.Exact
import DocPath.Proofs.Formula.Roundtrip
import DocPath.Proofs.Operation.Integers
import DocPath.Proofs.Path.Bracket
import DocPath.Proofs.Path.Pairing
import DocPath.Proofs.Path.Rejoin
import DocPath.Proofs.Path.Special
import DocPath.Proofs.Query.Columns
import DocPath.Proofs.Tree.Again
import DocPath.Proofs.Tree.Calls
import DocPath.Proofs.Tree.Commute
import DocPath.Proofs.Tree.Delete
import DocPath.Proofs.Tree.Entries
import DocPath.Proofs.Tree.Export
import DocPath.Proofs.Tree.FanOut
import DocPath.Proofs.Tree.Filter
import DocPath.Proofs.Tree.Insert
import DocPath.Proofs.Tree.Kill
import DocPath.Proofs.Tree.Lifetime
import DocPath.Proofs.Tree.Lookup
import DocPath.Proofs.Tree.Mirror
import DocPath.Proofs.Tree.Move
import DocPath.Proofs.Tree.Navigation
import DocPath.Proofs.Tree.Once
import DocPath.Proofs.Tree.Pick
import DocPath.Proofs.Tree.ReadBack
import DocPath.Proofs.Tree.ReadOnly
import DocPath.Proofs.Tree.Replace
import DocPath.Proofs.Tree.Set
