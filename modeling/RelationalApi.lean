import RelationalApi.Main
import RelationalApi.Proofs.Answer.Forms
import RelationalApi.Proofs.Arguments.Alternatives
import RelationalApi.Proofs.Arguments.Decimals
import RelationalApi.Proofs.Arguments.OperatorLaws
import RelationalApi.Proofs.Arguments.WhereMeaning
import RelationalApi.Proofs.Catalog.Decimals
import RelationalApi.Proofs.Catalog.Declarations
import RelationalApi.Proofs.Graphql.Fragments
import RelationalApi.Proofs.Graphql.RootFields
import RelationalApi.Proofs.Graphql.Variables
import RelationalApi.Proofs.Interface.AnsweredValues
import RelationalApi.Proofs.Interface.Members
import RelationalApi.Proofs.Request.AcceptedWrites
import RelationalApi.Proofs.Request.AddedNulls
import RelationalApi.Proofs.Request.Assembly
import RelationalApi.Proofs.Request.CountedColumns
import RelationalApi.Proofs.Request.DeclaredNames
import RelationalApi.Proofs.Request.Failures
import RelationalApi.Proofs.Request.FittingRequests
import RelationalApi.Proofs.Request.GivenValues
import RelationalApi.Proofs.Request.KeyOrder
import RelationalApi.Proofs.Request.Observed
import RelationalApi.Proofs.Request.Projection
import RelationalApi.Proofs.Request.SentDefaults
import RelationalApi.Proofs.Request.SingleSelects
import RelationalApi.Proofs.Selection.UnknownFields
import RelationalApi.Proofs.Storage.CaseFolding
import RelationalApi.Proofs.Storage.Paging
import RelationalApi.Proofs.Storage.Retried
import RelationalApi.Proofs.Storage.Uniqueness
import RelationalApi.Proofs.Types.Printing
import RelationalApi.Storage.Wire
