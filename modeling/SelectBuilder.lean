import SelectBuilder.Query.Statement
import SelectBuilder.Query.Script
import SelectBuilder.Query.Description
import SelectBuilder.Proofs.AliasNumbers
import SelectBuilder.Proofs.FailedCalls
import SelectBuilder.Proofs.LastingConditions
import SelectBuilder.Proofs.LexicalSafety
import SelectBuilder.Proofs.Noninterference
import SelectBuilder.Proofs.ReadBack
import SelectBuilder.Proofs.RenderModes
import SelectBuilder.Proofs.ScopeMeaning
import SelectBuilder.Proofs.QueryShape
import SelectBuilder.Proofs.UniqueAliases
import SelectBuilder.Proofs.FilterDocuments
import SelectBuilder.Proofs.StatementClauses
import SelectBuilder.Proofs.ReadClauses
import SelectBuilder.Proofs.FilterMeaning
import SelectBuilder.Proofs.RefusedJoins
import SelectBuilder.Proofs.IndependentAliases
import SelectBuilder.Proofs.PrunedConditions
import SelectBuilder.Proofs.AliasSearch
import SelectBuilder.Proofs.OutputNames
import SelectBuilder.Proofs.EmptyTuples
